import Telemetry.Cause
import Telemetry.Preferences.Basic
import Telemetry.Retry.Policy
import Telemetry.Settings.Fault
/-!
Errors of the service and its clients.
-/

namespace Telemetry

inductive QueueFault where
  | noBatch
  | noQueue
  | noInterval
  | stated (reason : String)
  deriving DecidableEq, Repr, Inhabited

def QueueFault.message : QueueFault → String
  | .noBatch => "max batch size must be at least 1"
  | .noQueue => "max queue size must be at least 1"
  | .noInterval => "flush interval must be positive"
  | .stated reason => reason

inductive RequestFailure where
  | unsendable
  | refused
  | timedOut
  | broken
  deriving DecidableEq, Repr, Inhabited

def RequestFailure.isTransient : RequestFailure → Bool
  | .refused | .timedOut => true
  | .unsendable | .broken => false

inductive ServiceError where
  | notInitialized
  | closed
  | badTrackingId
  | badBaseUrl
  | badQueue (fault : QueueFault)
  | noRuntime
  | requestFailed (failure : RequestFailure)
  | serverError (status : Nat) (body : String)
  | rateLimited (pauseSeconds : Option Nat)
  | settings (fault : SettingsFault)
  | preferences (fault : PreferenceFault)
  deriving DecidableEq, Repr, Inhabited

namespace ServiceError

def secondsText : Option Nat → String
  | some seconds => "Some(" ++ toString seconds ++ ")"
  | none => "None"

def message : ServiceError → String
  | .notInitialized => "analytics has not been initialized"
  | .closed => "client has been shut down"
  | .badTrackingId => "invalid tracking id: expected UA-<account>-<property>"
  | .badBaseUrl => "invalid base URL"
  | .badQueue fault => "invalid batch configuration: " ++ fault.message
  | .noRuntime => "no tokio runtime available for background delivery"
  | .requestFailed _ => "HTTP request failed"
  | .serverError status body => "server error (" ++ toString status ++ "): " ++ body
  | .rateLimited pauseSeconds =>
      "rate limited, retry after " ++ secondsText pauseSeconds ++ " seconds"
  | .settings fault => "configuration error: " ++ fault.message
  | .preferences fault => "preference store error: " ++ fault.message

def chain (error : ServiceError) : ErrorChain :=
  match error with
  | .settings fault => .causedBy error.message .apart (.root fault.message)
  | .preferences fault => .causedBy error.message .apart (.root fault.message)
  | .requestFailed _ => .causedBy error.message .apart (.root "")
  | _ => .root error.message

def tooManyRequests : Nat := 429

end ServiceError

instance : Retryable ServiceError where
  isTransient
    | .requestFailed failure => failure.isTransient
    | _ => false
  status
    | .serverError status _ => if 100 ≤ status ∧ status ≤ 999 then some status else none
    | .rateLimited _ => some ServiceError.tooManyRequests
    | _ => none
  retryAfter
    | .rateLimited (some seconds) => some (.ofSeconds seconds)
    | _ => none

end Telemetry
