import Telemetry.Disk
import Telemetry.Url.Host
/-!
Why settings could not be loaded.
-/

namespace Telemetry

inductive Invalid where
  | trackingId (found : String)
  | blankAppName
  | baseUrl (fault : Url.Fault)
  | batchSize (most : Nat)
  | queueBelowBatch
  | noFlushInterval
  | stated (reason : String)
  deriving DecidableEq, Repr, Inhabited

def Invalid.message : Invalid → String
  | .trackingId found =>
      "tracking id '" ++ found ++ "' is not of the form UA-<account>-<property>"
  | .blankAppName => "app name must not be empty"
  | .baseUrl fault => "invalid base url: " ++ fault.message
  | .batchSize most => "batch size must be between 1 and " ++ toString most
  | .queueBelowBatch => "max queue size must be at least the batch size"
  | .noFlushInterval => "flush interval must be positive"
  | .stated reason => reason

inductive BadEnvironment where
  | value (name value : String)
  | stated (reason : String)
  deriving DecidableEq, Repr, Inhabited

def BadEnvironment.message : BadEnvironment → String
  | .value name found => name ++ " has invalid value '" ++ found ++ "'"
  | .stated reason => reason

inductive SettingsFault where
  | disk (fault : DiskFault)
  | document (path : String)
  | environment (reason : BadEnvironment)
  | invalid (reason : Invalid)
  | missing (field : String)
  | noHome
  deriving DecidableEq, Repr, Inhabited

def SettingsFault.message : SettingsFault → String
  | .disk fault => "I/O error: " ++ fault.message
  | .document path => "TOML parse error in " ++ path
  | .environment reason => "Environment error: " ++ reason.message
  | .invalid reason => "Validation error: " ++ reason.message
  | .missing field => "Missing required field: " ++ field
  | .noHome => "Could not determine home directory"

end Telemetry
