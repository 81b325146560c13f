import Telemetry.Json.Basic
import Telemetry.Record
/-!
Layers of configuration.

A layer sets some of the fields and leaves the others open.  Layers are merged field by field:
what the later layer sets wins, and what it leaves open stays as it was.
-/

namespace Telemetry

structure IdentityLayer where
  trackingId : Option String := none
  appName : Option String := none
  appVersion : Option String := none
  appId : Option String := none
  anonymizeIp : Option Bool := none
  deriving DecidableEq, Repr, Inhabited

structure DeliveryLayer where
  baseUrl : Option String := none
  batchSize : Option Nat := none
  flushIntervalMs : Option Nat := none
  maxQueueSize : Option Nat := none
  requestTimeoutMs : Option Nat := none
  dryRun : Option Bool := none
  deriving DecidableEq, Repr, Inhabited

/-- A layer of configuration.  A section may be there without setting any field. -/
structure Layer where
  identity : Option IdentityLayer := none
  delivery : Option DeliveryLayer := none
  deriving DecidableEq, Repr, Inhabited

def override {α : Type} (earlier later : Option α) : Option α := later.or earlier

def IdentityLayer.merge (earlier later : IdentityLayer) : IdentityLayer where
  trackingId := override earlier.trackingId later.trackingId
  appName := override earlier.appName later.appName
  appVersion := override earlier.appVersion later.appVersion
  appId := override earlier.appId later.appId
  anonymizeIp := override earlier.anonymizeIp later.anonymizeIp

def DeliveryLayer.merge (earlier later : DeliveryLayer) : DeliveryLayer where
  baseUrl := override earlier.baseUrl later.baseUrl
  batchSize := override earlier.batchSize later.batchSize
  flushIntervalMs := override earlier.flushIntervalMs later.flushIntervalMs
  maxQueueSize := override earlier.maxQueueSize later.maxQueueSize
  requestTimeoutMs := override earlier.requestTimeoutMs later.requestTimeoutMs
  dryRun := override earlier.dryRun later.dryRun

def mergeSection {α : Type} (merge : α → α → α) : Option α → Option α → Option α
  | some earlier, some later => some (merge earlier later)
  | none, later => later
  | earlier, none => earlier

def Layer.merge (earlier later : Layer) : Layer where
  identity := mergeSection IdentityLayer.merge earlier.identity later.identity
  delivery := mergeSection DeliveryLayer.merge earlier.delivery later.delivery

def Layer.empty : Layer := {}

section Reading

variable {ν ε : Type}

def IdentityLayer.reader (format : Format ν ε) : RecordReader ν ε IdentityLayer :=
  IdentityLayer.mk <$> .optional "tracking_id" (format.nullable format.text)
    <*> .optional "app_name" (format.nullable format.text)
    <*> .optional "app_version" (format.nullable format.text)
    <*> .optional "app_id" (format.nullable format.text)
    <*> .optional "anonymize_ip" (format.nullable format.boolean)

def DeliveryLayer.reader (format : Format ν ε) : RecordReader ν ε DeliveryLayer :=
  DeliveryLayer.mk <$> .optional "base_url" (format.nullable format.text)
    <*> .optional "batch_size" (format.nullable (format.word "usize"))
    <*> .optional "flush_interval_ms" (format.nullable (format.word "u64"))
    <*> .optional "max_queue_size" (format.nullable (format.word "usize"))
    <*> .optional "request_timeout_ms" (format.nullable (format.word "u64"))
    <*> .optional "dry_run" (format.nullable format.boolean)

def Layer.reader (format : Format ν ε) : RecordReader ν ε Layer :=
  Layer.mk
    <$> .optional "identity"
      (format.nullable (format.record "IdentityLayer" (IdentityLayer.reader format)))
    <*> .optional "delivery"
      (format.nullable (format.record "DeliveryLayer" (DeliveryLayer.reader format)))

def Layer.decode (format : Format ν ε) : ν → Except ε Layer :=
  format.record "ConfigLayer" (Layer.reader format)

end Reading

def IdentityLayer.toJson (layer : IdentityLayer) : Json :=
  .object
    [("tracking_id", .ofOption (layer.trackingId.map .text)),
      ("app_name", .ofOption (layer.appName.map .text)),
      ("app_version", .ofOption (layer.appVersion.map .text)),
      ("app_id", .ofOption (layer.appId.map .text)),
      ("anonymize_ip", .ofOption (layer.anonymizeIp.map .boolean))]

def DeliveryLayer.toJson (layer : DeliveryLayer) : Json :=
  .object
    [("base_url", .ofOption (layer.baseUrl.map .text)),
      ("batch_size", .ofOption (layer.batchSize.map .ofNat)),
      ("flush_interval_ms", .ofOption (layer.flushIntervalMs.map .ofNat)),
      ("max_queue_size", .ofOption (layer.maxQueueSize.map .ofNat)),
      ("request_timeout_ms", .ofOption (layer.requestTimeoutMs.map .ofNat)),
      ("dry_run", .ofOption (layer.dryRun.map .boolean))]

def Layer.toJson (layer : Layer) : Json :=
  .object
    [("identity", .ofOption (layer.identity.map IdentityLayer.toJson)),
      ("delivery", .ofOption (layer.delivery.map DeliveryLayer.toJson))]

instance : ToJson Layer := ⟨Layer.toJson⟩

end Telemetry
