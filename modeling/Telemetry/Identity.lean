import Telemetry.Json.Decode
import Telemetry.Text.Blank
import Telemetry.Text.Digits
/-!
Who sends the hits: the application and the installation.
-/

namespace Telemetry

open Telemetry.Text

structure AppIdentity where
  /-- The property that the hits are counted for, such as `UA-12345678-1`. -/
  trackingId : String
  appName : String
  appVersion : String
  appId : String
  anonymizeIp : Bool := true
  deriving DecidableEq, Repr, Inhabited

def isDigits (characters : List Char) : Bool :=
  !characters.isEmpty && characters.all isDecimalDigit

/-- Whether a text is a tracking id: `UA-`, an account number, a dash and a property number. -/
def isTrackingId (text : String) : Bool :=
  match dropStart? ['U', 'A', '-'] text.toList with
  | none => false
  | some rest =>
      match splitFirst? '-' rest with
      | none => false
      | some (account, property) => isDigits account && isDigits property

def AppIdentity.hasTrackingId (identity : AppIdentity) : Bool := isTrackingId identity.trackingId

structure Origin where
  identity : AppIdentity
  clientId : String
  deriving DecidableEq, Repr, Inhabited

open Json (DecodeError)

def AppIdentity.reader : RecordReader Json DecodeError AppIdentity :=
  AppIdentity.mk <$> .required "tracking_id" Json.decodeText
    <*> .required "app_name" Json.decodeText
    <*> .required "app_version" Json.decodeText
    <*> .required "app_id" Json.decodeText
    <*> .required "anonymize_ip" Json.decodeBoolean

def AppIdentity.ofJson : Json → Except DecodeError AppIdentity :=
  Json.decodeRecord "AppIdentity" AppIdentity.reader

def AppIdentity.toJson (identity : AppIdentity) : Json :=
  .object
    [("tracking_id", .text identity.trackingId), ("app_name", .text identity.appName),
      ("app_version", .text identity.appVersion), ("app_id", .text identity.appId),
      ("anonymize_ip", .boolean identity.anonymizeIp)]

instance : ToJson AppIdentity := ⟨AppIdentity.toJson⟩

def Origin.reader : RecordReader Json DecodeError Origin :=
  Origin.mk <$> .required "identity" AppIdentity.ofJson <*> .required "client_id" Json.decodeText

def Origin.ofJson : Json → Except DecodeError Origin :=
  Json.decodeRecord "DefaultRequest" Origin.reader

def Origin.toJson (origin : Origin) : Json :=
  .object [("identity", origin.identity.toJson), ("client_id", .text origin.clientId)]

instance : ToJson Origin := ⟨Origin.toJson⟩

end Telemetry
