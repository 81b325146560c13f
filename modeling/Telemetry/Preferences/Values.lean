import Telemetry.Preferences.Basic
import Telemetry.Toml.Reader
import Telemetry.Toml.Writer
/-!
Preferences under their keys, and the file that holds them.

Keys are kept in ascending order, and the file has one line for each.
-/

namespace Telemetry

abbrev Values := List (String × Preference)

namespace Values

def get? (values : Values) (key : String) : Option Preference :=
  (values.find? (·.1 == key)).map (·.2)

def insert (key : String) (preference : Preference) : Values → Values
  | [] => [(key, preference)]
  | (other, kept) :: rest =>
      if key = other then (key, preference) :: rest
      else if key < other then (key, preference) :: (other, kept) :: rest
      else (other, kept) :: insert key preference rest

def erase (values : Values) (key : String) : Values := values.filter (·.1 != key)

def put (values : Values) (key : String) : Option Preference → Values
  | some preference => values.insert key preference
  | none => values.erase key

def writePreference : Preference → String
  | .boolean value => if value then "true" else "false"
  | .text value => Toml.writeText value

def write (values : Values) : String :=
  String.join (values.map fun entry =>
    Toml.writeKey entry.1 ++ " = " ++ writePreference entry.2 ++ "\n")

def ofToml? : Toml → Option Preference
  | .boolean value => some (.boolean value)
  | .text value => some (.text value)
  | _ => none

def read? (contents : String) : Option Values := do
  let entries ← Toml.read? contents
  entries.foldlM (fun values entry => (ofToml? entry.2).map (Values.insert entry.1 · values)) []

end Values

end Telemetry
