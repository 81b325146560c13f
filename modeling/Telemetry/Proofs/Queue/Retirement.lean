import Telemetry.Proofs.Queue.Wakeup

/-! The end of a queue. Its loop never sleeps over a closed queue, and nothing but a panic could end
it early; so a closed queue that is left to itself has been emptied by a loop that has stopped. -/

namespace Telemetry

variable {α : Type}

namespace Task

structure Diligent (task : Task α) : Prop where
  batches : 1 ≤ task.queue.config.maxBatchSize
  attended : task.Attended task.queue.config
  orderly : task.Orderly
  calm : task.Calm

structure Retired (task : Task α) : Prop where
  sealed : task.queue.Sealed
  stopped : ∃ loop, task.loops = [loop] ∧ loop.stage = .stopped

variable {task next : Task α}

theorem diligent_fresh {config : QueueConfig} (batches : 1 ≤ config.maxBatchSize) (owner : α)
    (courier turn : Nat) :
    ({ owner, courier, queue := { config }, loops := [{ turn }] } : Task α).Diligent where
  batches := batches
  attended := .fresh batches owner courier turn
  orderly := List.forall_mem_singleton.mpr trivial
  calm := List.forall_mem_singleton.mpr Stage.noConfusion

theorem Change.diligent {calm : Prop} {event : QueueEvent α} {place : Nat}
    (change : Change calm event place task next) (started : event ≠ .start place) (quiet : calm)
    (diligent : task.Diligent) : next.Diligent := by
  have attended := change.attended diligent.batches started diligent.attended
  constructor
  · rw [attended.config]
    exact diligent.batches
  · rw [attended.config]
    exact attended
  · exact change.orderly diligent.orderly
  · exact change.calm_of quiet diligent.calm

/-- A loop that rests over a closed queue cannot be waiting, so it has stopped. -/
theorem Diligent.retired (diligent : task.Diligent) (closed : task.queue.closed = true) {now : Nat}
    (rests : ∀ loop ∈ task.loops, loop.stage.goesOn now = false) : task.Retired := by
  obtain ⟨loop, single, minds⟩ := diligent.attended.minds
  have member : loop ∈ task.loops := by
    rw [single]
    exact List.mem_singleton_self loop
  have still := rests loop member
  have found := diligent.orderly loop member
  have calm := diligent.calm loop member
  suffices stopped : loop.stage = .stopped by
    rw [stopped] at found
    exact ⟨found, loop, single, stopped⟩
  cases stage : loop.stage with
  | stopped => rfl
  | crashed => exact absurd stage calm
  | waiting deadline =>
      rw [stage] at minds
      exact absurd (.inl closed) minds.1
  | _ =>
      rw [stage] at still
      cases still

end Task

namespace Engine

theorem diligent_after {engine : Engine α} {event : QueueEvent α}
    (added : ∀ owner courier config, event ≠ .add owner courier config)
    (started : ∀ place, event ≠ .start place) (returns : engine.outbox.Returns)
    (diligent : ∀ task ∈ engine.tasks, task.Diligent) :
    ∀ task ∈ (engine.after event).tasks, task.Diligent := by
  apply everywhere_after event _ _ diligent
  · intro owner courier config same
    exact absurd same (added owner courier config)
  · intro place task next change
    exact change.diligent (started place) returns

theorem closed_leadsTo {kind : QueueEvent α → Prop} {before after : Engine α} {place : Nat}
    (leads : before.LeadsTo kind after) {task : Task α} (found : before.tasks[place]? = some task)
    (closed : task.queue.closed = true) :
    ∃ last, after.tasks[place]? = some last ∧ last.queue.closed = true := by
  refine LeadsTo.preserves
    (fun engine => ∃ last, engine.tasks[place]? = some last ∧ last.queue.closed = true)
    (fun engine event _ held => ?_) leads ⟨task, found, closed⟩
  obtain ⟨held, there, shut⟩ := held
  obtain ⟨next, reached, course⟩ := engine.task_after event there
  refine ⟨next, reached, ?_⟩
  exact course.preserves (·.queue.closed = true) (fun change => change.precedes.closed) shut

end Engine

end Telemetry
