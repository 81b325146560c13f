import Telemetry.Queue.Basic
/-!
The loops that send the hits of a queue.

A loop waits for the permit of its queue or for the end of the flush interval.  Then it looks
whether the queue is closed, takes all hits, hands them over as one batch, and waits again, or
stops if the queue was closed.  A failed delivery does not stop the loop; a panic does.
-/

namespace Telemetry

inductive Stage where
  | ready
  /-- It waits for the permit, but not beyond a point of time, in milliseconds. -/
  | waiting (deadline : Nat)
  | awake
  /-- It is about to take the hits out of the queue, and will stop after that or go on. -/
  | flushing (stop : Bool)
  | sending (stop : Bool) (batch : List QueuedHit)
  | stopped
  | crashed
  deriving DecidableEq, Repr, Inhabited

namespace Stage

def isAlive : Stage → Bool
  | .stopped | .crashed => false
  | _ => true

def isWaiting : Stage → Bool
  | .waiting _ => true
  | _ => false

def goesOn (stage : Stage) (now : Nat) : Bool :=
  match stage with
  | .waiting deadline => deadline ≤ now
  | .stopped | .crashed => false
  | _ => true

def deadline? : Stage → Option Nat
  | .waiting deadline => some deadline
  | _ => none

def batch? : Stage → Option (List QueuedHit)
  | .sending _ batch => some batch
  | _ => none

end Stage

structure HitLoop where
  stage : Stage := .ready
  /-- Of several loops the one with the least turn goes on first; among those that wait it is the
  one that has waited longest. -/
  turn : Nat
  deriving DecidableEq, Repr, Inhabited

def Duration.roundedUp (span : Duration) : Nat := (span.nanoseconds + 999999) / 1000000

/-- The end of a wait that begins now: the first millisecond after the flush interval, and never
this one. -/
def HitQueue.nextDeadline (queue : HitQueue) (now : Nat) : Nat :=
  now + max 1 queue.config.flushInterval.roundedUp

def HitQueue.weight (queue : HitQueue) : Nat := if queue.permit then 10 else 0

theorem HitQueue.weight_le (queue : HitQueue) : queue.weight ≤ 10 := by
  unfold weight
  split <;> omega

namespace HitLoop

/-- Begins to wait, as the last of all; a permit that is there ends the wait at once. -/
def wait (loop : HitLoop) (queue : HitQueue) (now ticket : Nat) : HitQueue × HitLoop :=
  if queue.permit then ({ queue with permit := false }, { loop with stage := .awake })
  else (queue, ⟨.waiting (queue.nextDeadline now), ticket⟩)

def finish (loop : HitLoop) (queue : HitQueue) (now ticket : Nat) (stop : Bool) :
    HitQueue × HitLoop :=
  if stop then (queue, { loop with stage := .stopped }) else loop.wait queue now ticket

/-- Lets a loop go on by one step; none if it waits or has ended.  The answer is what becomes of the
batch that it is about to hand over. -/
def step (loop : HitLoop) (queue : HitQueue) (now ticket : Nat) (answer : Answer) :
    Option (HitQueue × HitLoop) :=
  match loop.stage with
  | .stopped | .crashed => none
  | .ready => some (loop.wait queue now ticket)
  | .waiting deadline =>
      if deadline ≤ now then some (queue, { loop with stage := .awake }) else none
  | .awake => some (queue, { loop with stage := .flushing queue.closed })
  | .flushing stop =>
      let drained := queue.drain
      if drained.1.isEmpty then some (loop.finish drained.2 now ticket stop)
      else some (drained.2, { loop with stage := .sending stop drained.1 })
  | .sending stop _ =>
      match answer with
      | .panicked _ => some (queue, { loop with stage := .crashed })
      | _ => some (loop.finish queue now ticket stop)

def wake (loop : HitLoop) (ticket : Nat) : HitLoop :=
  { loop with stage := .awake, turn := ticket }

/-- What a loop may still do without anybody doing something for it.  A loop that has not ended may
end by a panic, which may be reported. -/
def weight (now : Nat) (loop : HitLoop) : Nat :=
  match loop.stage with
  | .stopped | .crashed => 0
  | .waiting deadline => if deadline ≤ now then 25 else 20
  | .ready => 21
  | .sending _ _ => 22
  | .flushing _ => 23
  | .awake => 24

theorem weight_wait (loop : HitLoop) (queue : HitQueue) (now ticket : Nat) :
    (loop.wait queue now ticket).1.weight + (loop.wait queue now ticket).2.weight now ≤
      queue.weight + 20 := by
  unfold wait
  split
  · rename_i permitted
    simp [HitQueue.weight, weight, permitted]
  · have later : ¬ queue.nextDeadline now ≤ now := by
      unfold HitQueue.nextDeadline
      omega
    simp [weight, later]

theorem weight_finish (loop : HitLoop) (queue : HitQueue) (now ticket : Nat) (stop : Bool) :
    (loop.finish queue now ticket stop).1.weight +
        (loop.finish queue now ticket stop).2.weight now ≤ queue.weight + 20 := by
  unfold finish
  split
  · simp [weight]
  · exact weight_wait loop queue now ticket

/-- Left alone, a loop soon waits or ends; a panic leaves room for a report. -/
theorem weight_step {loop next : HitLoop} {queue after : HitQueue} {now ticket : Nat}
    {answer : Answer} (moved : loop.step queue now ticket answer = some (after, next)) :
    after.weight + next.weight now < queue.weight + loop.weight now := by
  obtain ⟨stage, turn⟩ := loop
  cases stage with
  | stopped => simp [step] at moved
  | crashed => simp [step] at moved
  | ready =>
      have bound := weight_wait ⟨.ready, turn⟩ queue now ticket
      simp only [step, Option.some.injEq] at moved
      rw [moved] at bound
      have own : weight now ⟨.ready, turn⟩ = 21 := rfl
      simp only at bound
      omega
  | waiting deadline =>
      simp only [step] at moved
      split at moved
      · rename_i due
        simp only [Option.some.injEq, Prod.mk.injEq] at moved
        obtain ⟨rfl, rfl⟩ := moved
        simp [weight, due]
      · simp at moved
  | awake =>
      simp only [step, Option.some.injEq, Prod.mk.injEq] at moved
      obtain ⟨rfl, rfl⟩ := moved
      simp [weight]
  | flushing stop =>
      have own : weight now ⟨.flushing stop, turn⟩ = 23 := rfl
      have kept : queue.drain.2.weight = queue.weight := rfl
      simp only [step] at moved
      split at moved
      · have bound := weight_finish ⟨.flushing stop, turn⟩ queue.drain.2 now ticket stop
        simp only [Option.some.injEq] at moved
        rw [moved] at bound
        simp only at bound
        omega
      · simp only [Option.some.injEq, Prod.mk.injEq] at moved
        obtain ⟨rfl, rfl⟩ := moved
        simp only [weight] at own ⊢
        omega
  | sending stop batch =>
      have own : weight now ⟨.sending stop batch, turn⟩ = 22 := rfl
      simp only [step] at moved
      split at moved
      · simp only [Option.some.injEq, Prod.mk.injEq] at moved
        obtain ⟨rfl, rfl⟩ := moved
        simp [weight]
      · have bound := weight_finish ⟨.sending stop batch, turn⟩ queue now ticket stop
        simp only [Option.some.injEq] at moved
        rw [moved] at bound
        simp only at bound
        omega

theorem weight_step_panicked {loop next : HitLoop} {queue after : HitQueue} {now ticket : Nat}
    {message : String} {batch : List QueuedHit} (holds : loop.stage.batch? = some batch)
    (moved : loop.step queue now ticket (.panicked message) = some (after, next)) :
    after.weight + next.weight now + 10 < queue.weight + loop.weight now := by
  obtain ⟨stage, turn⟩ := loop
  cases stage with
  | sending stop held =>
      simp only [step, Option.some.injEq, Prod.mk.injEq] at moved
      obtain ⟨rfl, rfl⟩ := moved
      simp [weight]
  | _ => simp [Stage.batch?] at holds

theorem weight_wake {loop : HitLoop} (waits : loop.stage.isWaiting = true) (now ticket : Nat) :
    (loop.wake ticket).weight now ≤ loop.weight now + 4 := by
  obtain ⟨stage, turn⟩ := loop
  cases stage with
  | waiting deadline =>
      simp only [wake, weight]
      split <;> omega
  | _ => simp [Stage.isWaiting] at waits

def firstBy? (test : HitLoop → Bool) : List HitLoop → Option (Nat × HitLoop)
  | [] => none
  | loop :: rest =>
      let later := (firstBy? test rest).map fun (index, found) => (index + 1, found)
      if !test loop then later
      else
        match later with
        | some (index, found) =>
            if found.turn < loop.turn then some (index, found) else some (0, loop)
        | none => some (0, loop)

theorem firstBy_found {test : HitLoop → Bool} {loops : List HitLoop} {index : Nat}
    {found : HitLoop} (first : firstBy? test loops = some (index, found)) :
    loops[index]? = some found ∧ test found = true := by
  induction loops generalizing index found with
  | nil => simp [firstBy?] at first
  | cons loop rest ih =>
      have later {place : Nat} {other : HitLoop}
          (same : (firstBy? test rest).map (fun (index, found) => (index + 1, found)) =
            some (place, other)) :
          (loop :: rest)[place]? = some other ∧ test other = true := by
        obtain ⟨⟨before, inner⟩, earlier, equal⟩ := Option.map_eq_some_iff.mp same
        simp only [Prod.mk.injEq] at equal
        obtain ⟨rfl, rfl⟩ := equal
        simpa using ih earlier
      simp only [firstBy?] at first
      split at first
      · exact later first
      · rename_i passes
        simp only [Bool.not_eq_true, Bool.not_eq_false'] at passes
        split at first
        · rename_i same
          split at first
          · simp only [Option.some.injEq, Prod.mk.injEq] at first
            obtain ⟨rfl, rfl⟩ := first
            exact later same
          · simp only [Option.some.injEq, Prod.mk.injEq] at first
            obtain ⟨rfl, rfl⟩ := first
            simpa using passes
        · simp only [Option.some.injEq, Prod.mk.injEq] at first
          obtain ⟨rfl, rfl⟩ := first
          simpa using passes

end HitLoop

end Telemetry
