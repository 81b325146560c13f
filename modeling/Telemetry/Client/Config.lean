import Telemetry.Queue.Basic
import Telemetry.Settings.Basic
/-!
Configurations of clients.

A client is built only for a valid tracking id, a base URL that is a URL, and a queue that its
loop can work with.
-/

namespace Telemetry

open Telemetry.Text

structure ClientConfig where
  requestTimeout : Duration := .ofSeconds 10
  queue : QueueConfig := {}
  policy : RetryPolicy := {}
  baseUrl : String := ({} : DeliverySettings).baseUrl
  userAgent : Option String := none
  dryRun : Bool := false

def QueueConfig.ofDelivery (delivery : DeliverySettings) : QueueConfig where
  maxBatchSize := delivery.batchSize
  flushInterval := delivery.flushInterval
  maxQueueSize := delivery.maxQueueSize

namespace ClientConfig

def ofDelivery (delivery : DeliverySettings) : ClientConfig where
  requestTimeout := delivery.requestTimeout
  queue := .ofDelivery delivery
  baseUrl := delivery.baseUrl
  dryRun := delivery.dryRun

def trimmedBaseUrl (config : ClientConfig) : String := trimEndOf '/' config.baseUrl

def shownUserAgent (config : ClientConfig) : String :=
  config.userAgent.getD (productUserAgent "linux-x86_64")

def lacksSender (config : ClientConfig) (hasSender : Bool) : Bool :=
  !hasSender && !isHeaderText config.shownUserAgent

/-- Checks whether a client can be built, with the given reading of URLs; the first obstacle is
reported. -/
def check (config : ClientConfig) (parseUrl : String → Except Url.Fault Url)
    (identity : AppIdentity) (hasRuntime hasSender : Bool) : Except ServiceError Unit := do
  if !identity.hasTrackingId then .error .badTrackingId
  match parseUrl config.trimmedBaseUrl with
  | .error _ => .error .badBaseUrl
  | .ok _ => pure ()
  config.queue.validate.mapError .badQueue
  if !hasRuntime then .error .noRuntime
  if config.lacksSender hasSender then .error (.requestFailed .unsendable)

def toJson (config : ClientConfig) : Json :=
  let queue := Json.object
    [("max_batch_size", config.queue.maxBatchSize),
      ("flush_interval_ms", config.queue.flushInterval.milliseconds),
      ("max_queue_size", config.queue.maxQueueSize)]
  .object
    [("request_timeout_ms", config.requestTimeout.milliseconds), ("batch", queue),
      ("base_url", config.baseUrl), ("user_agent", config.userAgent), ("dry_run", config.dryRun)]

end ClientConfig

instance : ToJson ClientConfig := ⟨ClientConfig.toJson⟩

end Telemetry
