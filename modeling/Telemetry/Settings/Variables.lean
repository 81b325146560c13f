import Telemetry.Settings.Fault
import Telemetry.Settings.Layer
import Telemetry.Text.Digits
/-!
A layer of configuration from environment variables.

Every field has a variable whose name begins with `USAGE_ANALYTICS_`.  Values are trimmed, and
a blank value is as good as none.
-/

namespace Telemetry

open Telemetry.Text

def variablePrefix : String := "USAGE_ANALYTICS_"

def Layer.changeIdentity (layer : Layer) (change : IdentityLayer → IdentityLayer) : Layer :=
  { layer with identity := some (change (layer.identity.getD {})) }

def Layer.changeDelivery (layer : Layer) (change : DeliveryLayer → DeliveryLayer) : Layer :=
  { layer with delivery := some (change (layer.delivery.getD {})) }

def readVariable {α : Type} (read : String → Option α) (name value : String) :
    Except SettingsFault α :=
  match read value with
  | some found => .ok found
  | none => .error (.environment (.value name value))

/-- Applies the value of a variable, which is not blank, to the field of the given name.  Other
names are ignored. -/
def Layer.setField (layer : Layer) (name field value : String) : Except SettingsFault Layer :=
  match field with
  | "TRACKING_ID" =>
      .ok (layer.changeIdentity fun part => { part with trackingId := some value })
  | "APP_NAME" =>
      .ok (layer.changeIdentity fun part => { part with appName := some value })
  | "APP_VERSION" =>
      .ok (layer.changeIdentity fun part => { part with appVersion := some value })
  | "APP_ID" =>
      .ok (layer.changeIdentity fun part => { part with appId := some value })
  | "ANONYMIZE_IP" =>
      (readVariable readBool? name value).map fun found =>
        layer.changeIdentity fun part => { part with anonymizeIp := some found }
  | "BASE_URL" =>
      .ok (layer.changeDelivery fun part => { part with baseUrl := some value })
  | "BATCH_SIZE" =>
      (readVariable readWord? name value).map fun found =>
        layer.changeDelivery fun part => { part with batchSize := some found }
  | "FLUSH_INTERVAL_MS" =>
      (readVariable readWord? name value).map fun found =>
        layer.changeDelivery fun part => { part with flushIntervalMs := some found }
  | "MAX_QUEUE_SIZE" =>
      (readVariable readWord? name value).map fun found =>
        layer.changeDelivery fun part => { part with maxQueueSize := some found }
  | "REQUEST_TIMEOUT_MS" =>
      (readVariable readWord? name value).map fun found =>
        layer.changeDelivery fun part => { part with requestTimeoutMs := some found }
  | "DRY_RUN" =>
      (readVariable readBool? name value).map fun found =>
        layer.changeDelivery fun part => { part with dryRun := some found }
  | _ => .ok layer

def Layer.applyVariable (layer : Layer) (entry : String × String) : Except SettingsFault Layer :=
  match dropStart? variablePrefix.toList entry.1.toList with
  | none => .ok layer
  | some field =>
      let value := trim entry.2
      if value = "" then .ok layer else layer.setField entry.1 (String.ofList field) value

/-- The layer that variables set, in their order; the first value that cannot be read is the
fault. -/
def Layer.ofVariables (bindings : List (String × String)) : Except SettingsFault Layer :=
  bindings.foldlM Layer.applyVariable Layer.empty

end Telemetry
