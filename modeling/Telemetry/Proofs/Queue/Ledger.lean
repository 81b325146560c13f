import Telemetry.Proofs.Queue.Event

/-! Accounts of hits. The journal says which hits a queue took, which it dropped, and which
batches of it were answered. What it took is at every point the sum of what it dropped, of the
batches handed over, and of what still waits. A loop that has taken a batch out of its queue has
handed it over; the journal notes the batch when it is answered. -/

namespace Telemetry

variable {α β : Type}

namespace Journal

def intake? : Happening → Option (Nat × QueuedHit)
  | .accepted queue hit => some (queue, hit)
  | _ => none

def loss? : Happening → Option (Nat × QueuedHit)
  | .dropped queue hit => some (queue, hit)
  | _ => none

def delivery? : Happening → Option (Nat × List QueuedHit)
  | .sent queue _ batch _ => some (queue, batch)
  | _ => none

def about (queue : Nat) (entries : List (Nat × β)) : List β :=
  (entries.filter (·.1 == queue)).map (·.2)

def accepted (queue : Nat) (journal : List Happening) : List QueuedHit :=
  about queue (journal.filterMap intake?)

def dropped (queue : Nat) (journal : List Happening) : List QueuedHit :=
  about queue (journal.filterMap loss?)

def answered (queue : Nat) (journal : List Happening) : List (List QueuedHit) :=
  about queue (journal.filterMap delivery?)

variable (queue : Nat) (first second : List Happening)

@[simp] theorem about_append (first second : List (Nat × β)) :
    about queue (first ++ second) = about queue first ++ about queue second := by
  simp only [about, List.filter_append, List.map_append]

@[simp] theorem accepted_append :
    accepted queue (first ++ second) = accepted queue first ++ accepted queue second := by
  simp only [accepted, List.filterMap_append, about_append]

@[simp] theorem dropped_append :
    dropped queue (first ++ second) = dropped queue first ++ dropped queue second := by
  simp only [dropped, List.filterMap_append, about_append]

@[simp] theorem answered_append :
    answered queue (first ++ second) = answered queue first ++ answered queue second := by
  simp only [answered, List.filterMap_append, about_append]

theorem entries_logged (events : List LogEvent) :
    (events.map Happening.logged).filterMap intake? = [] ∧
      (events.map Happening.logged).filterMap loss? = [] ∧
      (events.map Happening.logged).filterMap delivery? = [] := by
  induction events with
  | nil => exact ⟨rfl, rfl, rfl⟩
  | cons event rest ih => exact ih

/-- What the journal says of an answered batch, with the warnings around it. -/
def ofDelivery (index courier : Nat) (batch : List QueuedHit) (answer : Answer)
    (early late : List LogEvent) : List Happening :=
  early.map .logged ++ [.sent index courier batch answer] ++ late.map .logged

/-- What the journal says of a hit that comes in, and of the one that leaves for it. -/
def ofArrival (index : Nat) (lost : Option QueuedHit) (hit : QueuedHit) : List Happening :=
  lost.toList.map (.dropped index) ++ [.accepted index hit]

theorem entries_ofDelivery (index courier : Nat) (batch : List QueuedHit) (answer : Answer)
    (early late : List LogEvent) :
    (ofDelivery index courier batch answer early late).filterMap intake? = [] ∧
      (ofDelivery index courier batch answer early late).filterMap loss? = [] ∧
      (ofDelivery index courier batch answer early late).filterMap delivery? =
        [batch].map (index, ·) := by
  obtain ⟨earlyArrival, earlyLoss, earlyDelivery⟩ := entries_logged early
  obtain ⟨lateArrival, lateLoss, lateDelivery⟩ := entries_logged late
  simp only [ofDelivery, List.filterMap_append, earlyArrival, earlyLoss, earlyDelivery,
    lateArrival, lateLoss, lateDelivery]
  exact ⟨rfl, rfl, rfl⟩

theorem entries_ofArrival (index : Nat) (lost : Option QueuedHit) (hit : QueuedHit) :
    (ofArrival index lost hit).filterMap intake? = [hit].map (index, ·) ∧
      (ofArrival index lost hit).filterMap loss? = lost.toList.map (index, ·) ∧
      (ofArrival index lost hit).filterMap delivery? = [] := by
  cases lost with
  | none => exact ⟨rfl, rfl, rfl⟩
  | some oldest => exact ⟨rfl, rfl, rfl⟩

theorem about_nil : about queue ([] : List (Nat × β)) = [] := rfl

@[simp] theorem about_own (queue : Nat) (values : List β) :
    about queue (values.map (queue, ·)) = values := by
  induction values with
  | nil => rfl
  | cons value rest ih => simp_all [about]

@[simp] theorem about_other {index queue : Nat} (other : index ≠ queue) (values : List β) :
    about queue (values.map (index, ·)) = [] := by
  induction values with
  | nil => rfl
  | cons value rest ih => simp_all [about]

end Journal

open Journal

def HitLoop.carried (loop : HitLoop) : List QueuedHit := loop.stage.batch?.getD []

def Task.outstanding (task : Task α) : List (List QueuedHit) :=
  task.loops.filterMap (·.stage.batch?)

def Task.holding (task : Task α) (hit : QueuedHit) : Nat :=
  task.queue.hits.count hit + total (fun loop => loop.carried.count hit) task.loops

theorem Task.count_outstanding (task : Task α) (hit : QueuedHit) :
    task.outstanding.flatten.count hit =
      total (fun loop => loop.carried.count hit) task.loops := by
  unfold outstanding
  induction task.loops with
  | nil => rfl
  | cons loop rest ih =>
      rw [total_cons, ← ih]
      cases batch : loop.stage.batch? with
      | none => simp [HitLoop.carried, batch]
      | some held => simp [HitLoop.carried, batch, List.count_append]

theorem HitQueue.count_enqueue {queue : HitQueue} {added : QueuedHit} {room : Accepted}
    (taken : queue.enqueue added = some room) (hit : QueuedHit) :
    [added].count hit + queue.hits.count hit =
      room.dropped.toList.count hit + room.queue.hits.count hit := by
  unfold enqueue at taken
  split at taken
  · cases taken
  · cases taken
    unfold makeRoom
    split
    · rename_i oldest others found
      split
      · simp only [found, Option.toList_some, List.count_append, List.count_cons, List.count_nil]
        omega
      · simp only [Option.toList_none, List.count_append, List.count_nil]
        omega
    · rename_i empty
      simp only [empty, Option.toList_none, List.count_append, List.count_nil]
      omega

theorem Task.holding_grant (task : Task α) (ticket : Nat) (hit : QueuedHit) :
    (task.grant ticket).holding hit = task.holding hit := by
  unfold grant
  split
  · rename_i index found permitted first
    obtain ⟨held, waits⟩ := HitLoop.firstBy_found first
    have sums := total_set (fun loop : HitLoop => loop.carried.count hit) task.loops index
      (found.wake ticket) found held
    have idle : found.carried = [] := by
      unfold HitLoop.carried
      cases stage : found.stage <;> simp_all [Stage.isWaiting, Stage.batch?]
    have woken : (found.wake ticket).carried = [] := rfl
    simp only [idle, woken, List.count_nil, Nat.add_zero] at sums
    simp only [holding, sums]
  · rfl

theorem Task.holding_withQueue (task : Task α) (queue : HitQueue) (ticket : Nat)
    (hit : QueuedHit) :
    (task.withQueue queue ticket).holding hit + task.queue.hits.count hit =
      task.holding hit + queue.hits.count hit := by
  unfold withQueue
  rw [holding_grant]
  simp only [holding]
  omega

namespace HitLoop

variable (loop : HitLoop) (queue : HitQueue) (now ticket : Nat)

@[simp] theorem hits_wait : (loop.wait queue now ticket).1.hits = queue.hits := by
  unfold wait
  split <;> rfl

@[simp] theorem carried_wait : (loop.wait queue now ticket).2.carried = [] := by
  unfold wait
  split <;> rfl

@[simp] theorem hits_finish (stop : Bool) :
    (loop.finish queue now ticket stop).1.hits = queue.hits := by
  unfold finish
  split
  · rfl
  · exact hits_wait loop queue now ticket

@[simp] theorem carried_finish (stop : Bool) :
    (loop.finish queue now ticket stop).2.carried = [] := by
  unfold finish
  split
  · rfl
  · exact carried_wait loop queue now ticket

variable {loop queue now ticket}

inductive Moves (loop : HitLoop) (queue : HitQueue) (now ticket : Nat) (answer : Answer) :
    HitQueue × HitLoop → Prop where
  | settle (fresh : loop.stage = .ready) :
      Moves loop queue now ticket answer (loop.wait queue now ticket)
  | due : Moves loop queue now ticket answer (queue, { loop with stage := .awake })
  | look (woken : loop.stage = .awake) :
      Moves loop queue now ticket answer (queue, { loop with stage := .flushing queue.closed })
  | pass {stop : Bool} (saw : loop.stage = .flushing stop) (empty : queue.hits = []) :
      Moves loop queue now ticket answer (loop.finish queue.drain.2 now ticket stop)
  | take {stop : Bool} (saw : loop.stage = .flushing stop) :
      Moves loop queue now ticket answer
        (queue.drain.2, { loop with stage := .sending stop queue.hits })
  | crash {stop : Bool} {batch : List QueuedHit} {message : String}
      (handed : loop.stage = .sending stop batch) (panicked : answer = .panicked message) :
      Moves loop queue now ticket answer (queue, { loop with stage := .crashed })
  | resume {stop : Bool} {batch : List QueuedHit} (handed : loop.stage = .sending stop batch) :
      Moves loop queue now ticket answer (loop.finish queue now ticket stop)

theorem step_moves {answer : Answer} {result : HitQueue × HitLoop}
    (moved : loop.step queue now ticket answer = some result) :
    Moves loop queue now ticket answer result := by
  unfold step at moved
  split at moved
  · cases moved
  · cases moved
  · rename_i fresh
    exact Option.some.inj moved ▸ .settle fresh
  · split at moved
    · exact Option.some.inj moved ▸ .due
    · cases moved
  · rename_i woken
    exact Option.some.inj moved ▸ .look woken
  · rename_i stop saw
    dsimp only at moved
    split at moved
    · rename_i empty
      exact Option.some.inj moved ▸ .pass saw (List.isEmpty_iff.mp empty)
    · exact Option.some.inj moved ▸ .take saw
  · rename_i stop batch handed
    split at moved
    · exact Option.some.inj moved ▸ .crash handed rfl
    · exact Option.some.inj moved ▸ .resume handed

/-- What a loop has in its hands after a step is what it has just taken out of the queue. -/
theorem carried_step {answer : Answer} {result : HitQueue × HitLoop}
    (moved : loop.step queue now ticket answer = some result) :
    result.2.carried ++ result.1.hits = queue.hits := by
  cases step_moves moved with
  | settle fresh => rw [carried_wait, hits_wait, List.nil_append]
  | due => rfl
  | look woken => rfl
  | pass saw empty => rw [carried_finish, hits_finish, empty]; rfl
  | take saw => exact List.append_nil _
  | crash handed panicked => rfl
  | resume handed => rw [carried_finish, hits_finish, List.nil_append]

end HitLoop

end Telemetry
