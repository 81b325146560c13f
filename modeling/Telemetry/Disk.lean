import Telemetry.Path
import Telemetry.Text.Utf8
/-!
Files and directories.

A disk is a tree of named entries, kept as a list of places.  The device may refuse changes.
-/

namespace Telemetry

open Telemetry.Text

inductive DiskFault where
  | notFound
  | isDirectory
  | notDirectory
  | alreadyExists
  | isBusy
  | notText
  | path (fault : PathFault)
  | refused
  deriving DecidableEq, Repr, Inhabited

def DiskFault.message : DiskFault → String
  | .notFound => "No such file or directory (os error 2)"
  | .isDirectory => "Is a directory (os error 21)"
  | .notDirectory => "Not a directory (os error 20)"
  | .alreadyExists => "File exists (os error 17)"
  | .isBusy => "Device or resource busy (os error 16)"
  | .path .nul => "file name contained an unexpected NUL byte"
  | .path .tooLong => "File name too long (os error 36)"
  | .notText => "stream did not contain valid UTF-8"
  | .refused => "Input/output error (os error 5)"

/-- The names on the way from the root to a place. -/
abbrev Place := List String

inductive DiskEntry where
  | directory
  | file (bytes : List UInt8) (mode : Nat)
  deriving DecidableEq, Repr, Inhabited

inductive DeviceAnswer where
  | allowed
  | refused
  /-- A file that was to be written has got so many of its bytes; no other change is made. -/
  | torn (kept : Nat)
  deriving DecidableEq, Repr, Inhabited

/-- A disk: its entries by place.  The root is always there and has no entry.  The device
answers the coming changes one by one, and allows all once its answers are used up. -/
structure Disk where
  entries : List (Place × DiskEntry) := []
  answers : List DeviceAnswer := []
  deriving Inhabited

def commonMode : Nat := 0o644

def privateMode : Nat := 0o600

/-- The places above a place, from the root's children down; the place itself is left out. -/
def Place.above (place : Place) : List Place :=
  (List.range place.length).filterMap fun count =>
    if count = 0 then none else some (place.take count)

namespace Disk

def entry? (disk : Disk) (place : Place) : Option DiskEntry :=
  if place.isEmpty then some .directory
  else (disk.entries.find? (·.1 == place)).map (·.2)

def holds (disk : Disk) (place : Place) : Bool := (disk.entry? place).isSome

def put (disk : Disk) (place : Place) (entry : DiskEntry) : Disk :=
  if disk.holds place then
    { disk with entries := disk.entries.map fun found =>
        if found.1 == place then (place, entry) else found }
  else { disk with entries := disk.entries ++ [(place, entry)] }

def remove (disk : Disk) (place : Place) : Disk :=
  { disk with entries := disk.entries.filter fun found => found.1.take place.length != place }

def ask (disk : Disk) : DeviceAnswer × Disk :=
  match disk.answers with
  | [] => (.allowed, disk)
  | answer :: rest => (answer, { disk with answers := rest })

def withDirectories (disk : Disk) (place : Place) : Disk :=
  (place.above ++ [place]).foldl (fun grown above =>
    if grown.holds above then grown else grown.put above .directory) disk

def comesBefore : Place → Place → Bool
  | [], _ => true
  | _ :: _, [] => false
  | first :: rest, second :: others =>
      if first = second then comesBefore rest others else first < second

/-- The paths of everything below a place, in depth-first order by name; directories end in a
slash. -/
def list (disk : Disk) (place : Place) : List String :=
  let below := disk.entries.filter fun found =>
    found.1.length > place.length && found.1.take place.length == place
  (below.mergeSort fun first second => comesBefore first.1 second.1).map fun found =>
    String.intercalate "/" (found.1.drop place.length) ++
      (if found.2 = .directory then "/" else "")

end Disk

end Telemetry
