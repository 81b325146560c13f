import Telemetry.Delivery.Sender
/-!
Queues of hits that wait to be sent.

A full queue drops its oldest hit for a new one.  The queue has one permit for its loops: it is
given when a batch is complete and when the queue is closed, and giving it once more before a loop
has taken it changes nothing.
-/

namespace Telemetry

structure QueueConfig where
  maxBatchSize : Nat := 1
  flushInterval : Duration := .ofSeconds 10
  maxQueueSize : Nat := 1000
  deriving DecidableEq, Repr, Inhabited

def QueueConfig.validate (config : QueueConfig) : Except QueueFault Unit :=
  if config.maxBatchSize = 0 then .error .noBatch
  else if config.maxQueueSize = 0 then .error .noQueue
  else if config.flushInterval.isZero then .error .noInterval
  else .ok ()

structure HitQueue where
  config : QueueConfig := {}
  hits : List QueuedHit := []
  closed : Bool := false
  permit : Bool := false
  deriving DecidableEq, Repr, Inhabited

namespace HitQueue

/-- The number of hits that fit into a queue; there is always room for one. -/
def capacity (queue : HitQueue) : Nat := max 1 queue.config.maxQueueSize

structure Accepted where
  dropped : Option QueuedHit
  queue : HitQueue
  deriving DecidableEq, Repr

def makeRoom (queue : HitQueue) : Accepted :=
  match queue.hits with
  | oldest :: others =>
      if queue.capacity ≤ queue.hits.length then ⟨some oldest, { queue with hits := others }⟩
      else ⟨none, queue⟩
  | [] => ⟨none, queue⟩

/-- Puts a hit at the end of a queue.  A closed queue takes none. -/
def enqueue (queue : HitQueue) (hit : QueuedHit) : Option Accepted :=
  if queue.closed then none
  else
    let room := queue.makeRoom
    let hits := room.queue.hits ++ [hit]
    let permit := queue.permit || decide (queue.config.maxBatchSize ≤ hits.length)
    some ⟨room.dropped, { room.queue with hits, permit }⟩

def drain (queue : HitQueue) : List QueuedHit × HitQueue :=
  (queue.hits, { queue with hits := [] })

def close (queue : HitQueue) : HitQueue := { queue with closed := true, permit := true }

end HitQueue

end Telemetry
