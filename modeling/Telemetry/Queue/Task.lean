import Telemetry.Agenda
import Telemetry.Queue.Loop
import Telemetry.Queue.Outbox
/-!
A queue with its loops and the courier that they use.
-/

namespace Telemetry

structure Task (α : Type) where
  owner : α
  courier : Nat := 0
  queue : HitQueue := {}
  loops : List HitLoop := []
  deriving Inhabited

namespace Task

variable {α : Type}

def weight (now : Nat) (task : Task α) : Nat :=
  task.queue.weight + total (HitLoop.weight now) task.loops

/-- Hands the permit of the queue to the loop that has waited longest, if there is a permit and a
loop that waits. -/
def grant (task : Task α) (ticket : Nat) : Task α :=
  match task.queue.permit, HitLoop.firstBy? (·.stage.isWaiting) task.loops with
  | true, some (index, found) =>
      { task with
        queue := { task.queue with permit := false }
        loops := task.loops.set index (found.wake ticket) }
  | _, _ => task

theorem weight_grant (task : Task α) (now ticket : Nat) :
    (task.grant ticket).weight now ≤ task.weight now := by
  unfold grant
  split
  · rename_i index found permitted first
    have held := HitLoop.firstBy_found first
    have sums := total_set (HitLoop.weight now) task.loops index (found.wake ticket) found held.1
    have woken := HitLoop.weight_wake held.2 now ticket
    have taken : task.queue.weight = 10 := by simp [HitQueue.weight, permitted]
    have given : HitQueue.weight { task.queue with permit := false } = 0 := rfl
    simp only [weight, taken, given]
    omega
  · exact Nat.le_refl _

def withQueue (task : Task α) (queue : HitQueue) (ticket : Nat) : Task α :=
  { task with queue }.grant ticket

theorem weight_withQueue (task : Task α) (queue : HitQueue) (now ticket : Nat) :
    (task.withQueue queue ticket).weight now ≤ task.weight now + 10 := by
  have granted := weight_grant { task with queue } now ticket
  have bound := queue.weight_le
  have same : weight now { task with queue } =
      queue.weight + total (HitLoop.weight now) task.loops := rfl
  unfold withQueue
  simp only [weight] at granted same ⊢
  omega

def deliver (task : Task α) (loop : HitLoop) (index : Nat) (outbox : Outbox) : Answer × Outbox :=
  match loop.stage.batch? with
  | none => (.delivered, outbox)
  | some batch =>
      let delivered := outbox.deliver index task.courier batch
      match delivered.1 with
      | .failed _ => (delivered.1, delivered.2.log [.flushFailed])
      | _ => delivered

theorem deliver_idle {task : Task α} {loop : HitLoop} {index : Nat} {outbox : Outbox}
    (idle : loop.stage.batch? = none) : (task.deliver loop index outbox).1 = .delivered := by
  simp [deliver, idle]

def step (task : Task α) (place now ticket : Nat) (loop : HitLoop) (answer : Answer) :
    Option (Task α) :=
  (loop.step task.queue now ticket answer).map fun (queue, moved) =>
    { task with queue, loops := task.loops.set place moved }

theorem weight_step {task next : Task α} {place now ticket : Nat} {loop : HitLoop}
    {answer : Answer} (held : task.loops[place]? = some loop)
    (moved : task.step place now ticket loop answer = some next) :
    next.weight now < task.weight now := by
  obtain ⟨⟨queue, after⟩, stepped, rfl⟩ := Option.map_eq_some_iff.mp moved
  have falls := HitLoop.weight_step stepped
  have sums := total_set (HitLoop.weight now) task.loops place after loop held
  simp only [weight]
  omega

theorem weight_step_panicked {task next : Task α} {place now ticket : Nat} {loop : HitLoop}
    {message : String} {batch : List QueuedHit} (held : task.loops[place]? = some loop)
    (holds : loop.stage.batch? = some batch)
    (moved : task.step place now ticket loop (.panicked message) = some next) :
    next.weight now + 10 < task.weight now := by
  obtain ⟨⟨queue, after⟩, stepped, rfl⟩ := Option.map_eq_some_iff.mp moved
  have falls := HitLoop.weight_step_panicked holds stepped
  have sums := total_set (HitLoop.weight now) task.loops place after loop held
  simp only [weight]
  omega

end Task

end Telemetry
