import Telemetry.Payload
import Telemetry.Settings.Layer
import Telemetry.Settings.Paths
import Telemetry.Url.Parse
/-!
Settings: a complete configuration.

Settings are resolved from a layer.  What the layer leaves open takes a default value, except
for the tracking id, the name and the version of the application, which have to be set.
-/

namespace Telemetry

open Telemetry.Text

structure DeliverySettings where
  baseUrl : String := "https://www.google-analytics.com"
  batchSize : Nat := 1
  flushInterval : Duration := .ofSeconds 10
  maxQueueSize : Nat := 1000
  requestTimeout : Duration := .ofSeconds 10
  dryRun : Bool := false
  deriving DecidableEq, Repr, Inhabited

structure Settings where
  identity : AppIdentity
  delivery : DeliverySettings
  paths : Paths
  deriving DecidableEq, Repr, Inhabited

def requireField (field : String) (value : Option String) : Except SettingsFault String :=
  match value with
  | some found => .ok found
  | none => .error (.missing field)

/-- The identity that a section sets.  An application without an id is known by its name. -/
def IdentityLayer.resolve (layer : IdentityLayer) : Except SettingsFault AppIdentity := do
  let trackingId ← requireField "identity.tracking_id" layer.trackingId
  let appName ← requireField "identity.app_name" layer.appName
  let appVersion ← requireField "identity.app_version" layer.appVersion
  let appId := layer.appId.getD appName
  let anonymizeIp := layer.anonymizeIp.getD true
  return { trackingId, appName, appVersion, appId, anonymizeIp }

/-- The delivery settings that a section sets.  Slashes at the end of the base URL are dropped. -/
def DeliveryLayer.resolve (layer : DeliveryLayer) : DeliverySettings :=
  let defaults : DeliverySettings := {}
  { baseUrl := (layer.baseUrl.map (trimEndOf '/')).getD defaults.baseUrl
    batchSize := layer.batchSize.getD defaults.batchSize
    flushInterval := (layer.flushIntervalMs.map .ofMilliseconds).getD defaults.flushInterval
    maxQueueSize := layer.maxQueueSize.getD defaults.maxQueueSize
    requestTimeout := (layer.requestTimeoutMs.map .ofMilliseconds).getD defaults.requestTimeout
    dryRun := layer.dryRun.getD defaults.dryRun }

def Settings.ofLayer (layer : Layer) (paths : Paths) : Except SettingsFault Settings := do
  let identity ← (layer.identity.getD {}).resolve
  return { identity, delivery := (layer.delivery.getD {}).resolve, paths }

/-- Checks settings, with the given reading of URLs; the first fault is reported. -/
def Settings.check (parseUrl : String → Except Url.Fault Url) (settings : Settings) :
    Except Invalid Unit := do
  let delivery := settings.delivery
  if !settings.identity.hasTrackingId then
    .error (.trackingId settings.identity.trackingId)
  if IsBlankText settings.identity.appName then .error .blankAppName
  match parseUrl delivery.baseUrl with
  | .error fault => .error (.baseUrl fault)
  | .ok _ => pure ()
  if delivery.batchSize < 1 ∨ maxHitsPerRequest < delivery.batchSize then
    .error (.batchSize maxHitsPerRequest)
  if delivery.maxQueueSize < delivery.batchSize then .error .queueBelowBatch
  if delivery.flushInterval.isZero then .error .noFlushInterval

def Settings.validate (settings : Settings) : Except SettingsFault Unit :=
  (settings.check Url.parse).mapError .invalid

/-- A span as a JSON value: whole seconds and the nanoseconds beyond them. -/
def Duration.toJson (span : Duration) : Json :=
  .object [("secs", .ofNat span.seconds), ("nanos", .ofNat span.fraction)]

def DeliverySettings.toJson (delivery : DeliverySettings) : Json :=
  .object
    [("base_url", .text delivery.baseUrl), ("batch_size", .ofNat delivery.batchSize),
      ("flush_interval", delivery.flushInterval.toJson),
      ("max_queue_size", .ofNat delivery.maxQueueSize),
      ("request_timeout", delivery.requestTimeout.toJson), ("dry_run", .boolean delivery.dryRun)]

def Settings.toJson (settings : Settings) : Json :=
  .object [("identity", settings.identity.toJson), ("delivery", settings.delivery.toJson)]

instance : ToJson Settings := ⟨Settings.toJson⟩

end Telemetry
