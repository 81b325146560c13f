import Telemetry.Disk
import Telemetry.Json.Decode
/-!
Preferences: what the user has chosen, under names.

A preference is a truth value or a text.
-/

namespace Telemetry

inductive Preference where
  | boolean (value : Bool)
  | text (value : String)
  deriving DecidableEq, Repr, Inhabited

def Preference.toJson : Preference → Json
  | .boolean value => .boolean value
  | .text value => .text value

instance : ToJson Preference := ⟨Preference.toJson⟩

def Preference.ofJson : Json → Except Json.DecodeError Preference
  | .boolean value => .ok (.boolean value)
  | .text value => .ok (.text value)
  | _ => .error (.noForm "PreferenceValue")

inductive PreferenceKind where
  | boolean
  | text
  deriving DecidableEq, Repr, Inhabited

def PreferenceKind.name : PreferenceKind → String
  | .boolean => "bool"
  | .text => "string"

inductive PreferenceFault where
  | disk (fault : DiskFault)
  | document (path : String)
  /-- A preference is of another kind than the caller asks for. -/
  | otherKind (key : String) (expected : PreferenceKind)
  deriving DecidableEq, Repr, Inhabited

def PreferenceFault.message : PreferenceFault → String
  | .disk fault => "IO error: " ++ fault.message
  | .document path => "failed to parse preferences at " ++ path
  | .otherKind key expected => "preference '" ++ key ++ "' is not a " ++ expected.name

end Telemetry
