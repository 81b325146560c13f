import Telemetry.Duration
import Telemetry.Form
import Telemetry.Hit
import Telemetry.Identity
/-!
Payloads: hits as form data for the collector.

Every payload starts with the protocol version, the ids of the property and the installation,
the kind of the hit and the application.  The hit's own parameters follow, and last, if the hit
had to wait, the whole milliseconds it spent in the queue.
-/

namespace Telemetry

def protocolVersion : String := "1"

def maxHitsPerRequest : Nat := 20

def optionalPair (name : String) (value : Option String) : List Form.Pair :=
  (value.map fun text => (name, text)).toList

def Origin.parameters (origin : Origin) (kind : HitKind) : List Form.Pair :=
  [("v", protocolVersion), ("tid", origin.identity.trackingId), ("cid", origin.clientId),
    ("t", kind.name), ("an", origin.identity.appName), ("av", origin.identity.appVersion),
    ("aid", origin.identity.appId)] ++
    (if origin.identity.anonymizeIp then [("aip", "1")] else [])

def Hit.parameters : Hit → List Form.Pair
  | .screenView contents => [("cd", contents.screenName)]
  | .event contents =>
      [("ec", contents.category), ("ea", contents.action)] ++ optionalPair "el" contents.label ++
        optionalPair "ev" (contents.value.map fun value => toString value.toInt)
  | .exception contents =>
      [("exd", contents.description), ("exf", if contents.fatal then "1" else "0")]

def queueParameters (queueTime : Duration) : List Form.Pair :=
  if queueTime.isZero then [] else [("qt", toString queueTime.milliseconds)]

def parameters (origin : Origin) (hit : Hit) (queueTime : Duration) : List Form.Pair :=
  origin.parameters hit.kind ++ hit.parameters ++ queueParameters queueTime

def payload (origin : Origin) (hit : Hit) (queueTime : Duration) : String :=
  Form.encode (parameters origin hit queueTime)

/-- The body of a request for several payloads: one on each line. -/
def batchBody (payloads : List String) : String := String.intercalate "\n" payloads

end Telemetry
