import Telemetry.Delivery.Sender
import Telemetry.Log
/-!
Couriers, what they meet, and the journal of what they did.

A courier takes batches.  The journal keeps what happened to every hit, and the log is a part of
it.
-/

namespace Telemetry

inductive Courier where
  /-- Gives its answers one after the other, and delivers everything after the last one. -/
  | scripted (answers : List Answer)
  | http (sender : HttpSender) (collector : Collector)

structure Handling where
  answer : Answer
  log : List LogEvent
  courier : Courier
  calendar : Calendar

def Courier.deliver (courier : Courier) (calendar : Calendar) (batch : List QueuedHit) :
    Handling :=
  match courier with
  | .scripted answers =>
      ⟨answers.head?.getD .delivered, [], .scripted (answers.drop 1), calendar⟩
  | .http sender collector =>
      let run := sender.send calendar batch collector
      ⟨run.answer, run.log, .http sender run.collector, run.calendar⟩

inductive Happening where
  | logged (event : LogEvent)
  | accepted (queue : Nat) (hit : QueuedHit)
  | dropped (queue : Nat) (hit : QueuedHit)
  | sent (queue courier : Nat) (batch : List QueuedHit) (answer : Answer)
  deriving DecidableEq, Repr, Inhabited

def Happening.logged? : Happening → Option LogEvent
  | .logged event => some event
  | .dropped _ hit => some (.hitDropped hit.hit.kind)
  | _ => none

/-- What is not up to an application: the calendar, and what its couriers are connected to. -/
structure World where
  calendar : Calendar := {}
  /-- What the sender that a client makes is connected to, by its place among the couriers. -/
  collectors : Nat → Collector := fun _ => {}
  deriving Inhabited

structure Outbox where
  couriers : List Courier := []
  world : World := {}
  arrivals : Nat := 0
  journal : List Happening := []
  deriving Inhabited

namespace Outbox

def stamp (outbox : Outbox) (hit : Hit) : QueuedHit × Outbox :=
  let reading := outbox.world.calendar.read
  (⟨hit, reading.1, outbox.arrivals⟩,
    { outbox with world.calendar := reading.2, arrivals := outbox.arrivals + 1 })

def connect (outbox : Outbox) (sender : HttpSender) : Outbox :=
  let collector := (outbox.world.collectors outbox.couriers.length).fresh
  { outbox with couriers := outbox.couriers ++ [.http sender collector] }

def note (outbox : Outbox) (happenings : List Happening) : Outbox :=
  { outbox with journal := outbox.journal ++ happenings }

def log (outbox : Outbox) (events : List LogEvent) : Outbox :=
  outbox.note (events.map .logged)

def deliver (outbox : Outbox) (queue courier : Nat) (batch : List QueuedHit) : Answer × Outbox :=
  match outbox.couriers[courier]? with
  | none => (.delivered, outbox.note [.sent queue courier batch .delivered])
  | some found =>
      let handled := found.deliver outbox.world.calendar batch
      let kept := { outbox with
        couriers := outbox.couriers.set courier handled.courier
        world.calendar := handled.calendar }
      (handled.answer, (kept.log handled.log).note [.sent queue courier batch handled.answer])

def recorded? (outbox : Outbox) : Happening → Option (List QueuedHit × Answer)
  | .sent _ courier batch answer =>
      match outbox.couriers[courier]? with
      | some (.scripted _) => some (batch, answer)
      | _ => none
  | _ => none

end Outbox

end Telemetry
