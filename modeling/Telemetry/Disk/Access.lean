import Telemetry.Disk
/-!
Reading and changing files by their paths.

A path is followed name by name, so every operation may fail on the way, by what stands at its
end, or because the device refuses the change.  The device is asked last.
-/

namespace Telemetry.Disk

open Telemetry.Text

def checkPath (path : Path) : Except DiskFault Unit :=
  match path.fault? with
  | some fault => .error (.path fault)
  | none => .ok ()

/-- The place that names lead to from a place.  Nothing has to stand at that place itself. -/
def walk (disk : Disk) (place : Place) : List String → Except DiskFault Place
  | [] => .ok place
  | name :: rest =>
      match disk.entry? place with
      | none => .error .notFound
      | some (.file _ _) => .error .notDirectory
      | some .directory =>
          if name = "." then disk.walk place rest
          else if name = ".." then disk.walk place.dropLast rest
          else if isLongName name then .error (.path .tooLong)
          else disk.walk (place ++ [name]) rest

def find (disk : Disk) (path : Path) : Except DiskFault (Place × DiskEntry) := do
  checkPath path
  let place ← disk.walk [] path.names
  match disk.entry? place with
  | none => .error .notFound
  | some .directory => return (place, .directory)
  | some (.file bytes mode) =>
      if path.endsInSlash then .error .notDirectory else return (place, .file bytes mode)

def reaches (disk : Disk) (path : Path) : Bool :=
  match disk.find path with
  | .ok _ => true
  | .error _ => false

def reachesDirectory (disk : Disk) (path : Path) : Bool :=
  match disk.find path with
  | .ok (_, .directory) => true
  | _ => false

def directoryOf (disk : Disk) (path : Path) : Except DiskFault Place := do
  checkPath path
  let place ← disk.walk [] path.names.dropLast
  match disk.entry? place with
  | none => .error .notFound
  | some (.file _ _) => .error .notDirectory
  | some .directory => return place

def readBytes (disk : Disk) (path : Path) : Except DiskFault (List UInt8) := do
  match (← disk.find path).2 with
  | .directory => .error .isDirectory
  | .file bytes _ => return bytes

def readText (disk : Disk) (path : Path) : Except DiskFault String := do
  match decodeUtf8? (← disk.readBytes path) with
  | some text => return text
  | none => .error .notText

/-- Makes a change if nothing stands in its way and the device allows it.  Such a change is made as
a whole or not at all. -/
def change (disk : Disk) (attempt : Except DiskFault (Disk → Disk)) :
    Except DiskFault Unit × Disk :=
  match attempt with
  | .error fault => (.error fault, disk)
  | .ok apply =>
      match disk.ask with
      | (.allowed, asked) => (.ok (), apply asked)
      | (_, asked) => (.error .refused, asked)

def makeDirectory (disk : Disk) (path : Path) : Except DiskFault Unit × Disk :=
  disk.change do
    let above ← disk.directoryOf path
    match path.lastName? with
    | none => .error .alreadyExists
    | some name =>
        if isLongName name then .error (.path .tooLong)
        else if disk.holds (above ++ [name]) then .error .alreadyExists
        else return fun asked => asked.put (above ++ [name]) .directory

def ensureDirectory (disk : Disk) (path : Path) : Except DiskFault Unit × Disk :=
  match disk.makeDirectory path with
  | (.ok (), made) => (.ok (), made)
  | (.error fault, asked) =>
      if asked.reachesDirectory path then (.ok (), asked) else (.error fault, asked)

def createDirectories (disk : Disk) (names : List String) : Except DiskFault Unit × Disk :=
  match names with
  | [] => (.ok (), disk)
  | first :: rest =>
      let path : Path := ⟨first :: rest, false⟩
      match disk.ensureDirectory path with
      | (.error .notFound, asked) =>
          match asked.createDirectories (first :: rest).dropLast with
          | (.ok (), made) => made.ensureDirectory path
          | failed => failed
      | other => other
termination_by names.length
decreasing_by simp

/-- Where a path leads to a file that can be written, and its mode.  A file that is there keeps
the mode it has. -/
def fileToWrite (disk : Disk) (path : Path) : Except DiskFault (Place × Nat) := do
  let above ← disk.directoryOf path
  match path.lastName? with
  | none => .error .isDirectory
  | some name =>
      if path.endsInSlash then .error .isDirectory
      else if isLongName name then .error (.path .tooLong)
      else
        let place := above ++ [name]
        match disk.entry? place with
        | some .directory => .error .isDirectory
        | some (.file _ mode) => return (place, mode)
        | none => return (place, commonMode)

/-- Writes a file.  It is cut to nothing before the first byte is written, so a device that gives
up leaves the beginning of what was to be written. -/
def writeFile (disk : Disk) (path : Path) (bytes : List UInt8) : Except DiskFault Unit × Disk :=
  match disk.fileToWrite path with
  | .error fault => (.error fault, disk)
  | .ok (place, mode) =>
      match disk.ask with
      | (.allowed, asked) => (.ok (), asked.put place (.file bytes mode))
      | (.refused, asked) => (.error .refused, asked)
      | (.torn kept, asked) => (.error .refused, asked.put place (.file (bytes.take kept) mode))

/-- Gives the file that a path leads to a mode; anything else is left alone. -/
def setMode (disk : Disk) (path : Path) (mode : Nat) : Disk :=
  match disk.find path with
  | .ok (place, .file bytes _) => disk.put place (.file bytes mode)
  | _ => disk

def moveFile (disk : Disk) (source target : Path) : Except DiskFault Unit × Disk :=
  disk.change do
    let (origin, entry) ← disk.find source
    let above ← disk.directoryOf target
    match target.lastName? with
    | none => .error .isBusy
    | some name =>
        let place := above ++ [name]
        if isLongName name then .error (.path .tooLong)
        else if target.endsInSlash then .error .notDirectory
        else if disk.entry? place = some .directory then .error .isDirectory
        else if origin = place then return id
        else return fun asked => (asked.remove origin).put place entry

/-- Replaces the file that a path leads to by new contents that only the owner may read. -/
def replaceFile (disk : Disk) (path : Path) (contents : String) : Except DiskFault Unit × Disk :=
  let temporary := path.temporary
  match disk.createDirectories path.plainNames.dropLast with
  | (.error fault, made) => (.error fault, made)
  | (.ok (), made) =>
      match made.writeFile temporary (encodeUtf8 contents) with
      | (.error fault, written) => (.error fault, written)
      | (.ok (), written) => (written.setMode temporary privateMode).moveFile temporary path

/-- The disk after somebody has put an entry where a path leads, with the directories on the way.
The device refuses nothing meanwhile, but something else may stand in the way. -/
def place? (disk : Disk) (path : Path) (entry : DiskEntry) : Option Disk :=
  let free := { disk with answers := [] }
  let placed :=
    match entry with
    | .directory => free.createDirectories path.plainNames
    | .file bytes mode =>
        match free.createDirectories path.plainNames.dropLast with
        | (.ok (), made) =>
            let written := made.writeFile path bytes
            (written.1, written.2.setMode path mode)
        | failed => failed
  match placed with
  | (.ok (), after) => some { after with answers := disk.answers }
  | (.error _, _) => none

def discard (disk : Disk) (path : Path) : Disk :=
  match disk.find path with
  | .ok (place, _) => disk.remove place
  | .error _ => disk

end Telemetry.Disk
