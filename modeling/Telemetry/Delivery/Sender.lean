import Telemetry.Delivery.Arrival
import Telemetry.Delivery.Collector
import Telemetry.Instant
import Telemetry.Payload
import Telemetry.Retry.Run
import Telemetry.ServiceError
import Telemetry.Url.Parse
/-!
Sending hits to the collector.

Hits are sent in groups as large as a request may hold.  A group of one goes to the path
`/collect`, a larger one to `/batch` with one payload on each line.  A group is repeated under the
retry policy, and the next group follows only when the collector has taken the one before.  The
payloads of a group are made when its turn comes, after all requests and pauses of those before.
-/

namespace Telemetry

open Telemetry.Text

structure QueuedHit where
  hit : Hit
  queuedAt : Instant
  /-- Which of all hits it is.  Nothing reads it, but equal hits can come in at the same time. -/
  number : Nat := 0
  deriving DecidableEq, Repr, Inhabited

def QueuedHit.queueTime (queued : QueuedHit) (now : Instant) : Duration :=
  queued.queuedAt.elapsed now

def formContentType : String := "application/x-www-form-urlencoded"

def productUserAgent (platform : String) : String :=
  "usage-analytics/0.1.0 (" ++ platform ++ ")"

structure HttpSender where
  baseUrl : String
  origin : Origin
  policy : RetryPolicy
  userAgent : String

/-- The sender for a base URL; slashes at its end are dropped. -/
def HttpSender.make (baseUrl : String) (origin : Origin) (policy : RetryPolicy)
    (userAgent : String) : HttpSender :=
  { baseUrl := trimEndOf '/' baseUrl, origin, policy, userAgent }

/-- The seconds that a header asks to wait, if it says so in ASCII digits. -/
def retryAfterSeconds? (headers : List Header) : Option Nat := do
  let value ← (headerValues "retry-after" headers).head?
  if value.all isPlainHeaderCharacter then readWord? (String.ofList value) else none

def isSuccess (status : Nat) : Bool := 200 ≤ status && status ≤ 299

def Response.outcome : Response → Except ServiceError Unit
  | .dropped => .error (.requestFailed .broken)
  | .hanging => .error (.requestFailed .timedOut)
  | .refused => .error (.requestFailed .refused)
  | .answer status headers body =>
      match arrival? status headers body with
      | none => .error (.requestFailed .broken)
      | some arrival =>
          if status = ServiceError.tooManyRequests then
            .error (.rateLimited (retryAfterSeconds? arrival.headers))
          else if isSuccess status then .ok ()
          else .error (.serverError status (decodeUtf8Lenient arrival.body))

def HttpSender.post (sender : HttpSender) (path body : String) (collector : Collector) :
    Except ServiceError Unit × Collector :=
  match Url.parse (sender.baseUrl ++ path) with
  | .error _ => (.error (.requestFailed .unsendable), collector)
  | .ok url =>
      if !url.isSendable then (.error (.requestFailed .unsendable), collector)
      else
        let (response, after) := collector.receive
          { method := "POST"
            target := url.target
            contentType := formContentType
            userAgent := sender.userAgent
            body }
        (response.outcome, after)

def requestParts (payloads : List String) : String × String :=
  match payloads with
  | [single] => ("/collect", single)
  | several => ("/batch", batchBody several)

def groupsOf {α : Type} (size : Nat) (items : List α) : List (List α) :=
  match items with
  | [] => []
  | item :: rest => (item :: rest.take (size - 1)) :: groupsOf size (rest.drop (size - 1))
termination_by items.length
decreasing_by
  simp only [List.length_drop, List.length_cons]
  omega

inductive Answer where
  | delivered
  | failed (error : ServiceError)
  | panicked (message : String)
  deriving DecidableEq, Repr, Inhabited

structure DeliveryRun where
  answer : Answer
  collector : Collector
  calendar : Calendar
  log : List LogEvent

/-- The payloads of hits, one after the other, each with the time at which it is made. -/
def HttpSender.encode (sender : HttpSender) :
    List QueuedHit → Calendar → List String × Calendar
  | [], calendar => ([], calendar)
  | queued :: rest, calendar =>
      let reading := calendar.read
      let others := sender.encode rest reading.2
      (payload sender.origin queued.hit (queued.queueTime reading.1) :: others.1, others.2)

def HttpSender.sendGroup (sender : HttpSender) (calendar : Calendar) (group : List QueuedHit)
    (collector : Collector) : DeliveryRun :=
  let encoded := sender.encode group calendar
  let (path, body) := requestParts encoded.1
  let run := sender.policy.run (sender.post path body) collector
  let answer :=
    match run.result with
    | .succeeded () => .delivered
    | .failed error => .failed error
    | .brokeDown => .panicked (sender.policy.breakdownMessage (run.calls - 1))
  ⟨answer, run.state, encoded.2, run.log⟩

/-- Sends groups in their order, up to the first that is not delivered. -/
def HttpSender.sendGroups (sender : HttpSender) :
    Calendar → List (List QueuedHit) → Collector → DeliveryRun
  | calendar, [], collector => ⟨.delivered, collector, calendar, []⟩
  | calendar, group :: groups, collector =>
      let first := sender.sendGroup calendar group collector
      match first.answer with
      | .delivered =>
          let others := sender.sendGroups first.calendar groups first.collector
          { others with log := first.log ++ others.log }
      | _ => first

def HttpSender.send (sender : HttpSender) (calendar : Calendar) (hits : List QueuedHit)
    (collector : Collector) : DeliveryRun :=
  sender.sendGroups calendar (groupsOf maxHitsPerRequest hits) collector

end Telemetry
