import Telemetry.Proofs.Queue.Change
import Telemetry.Proofs.Queue.Ledger

/-! The order in which a loop reads the flag of its queue and takes the hits. A loop that has seen
the flag takes out what a closed queue holds, and nothing comes into a closed queue; what such a
loop leaves behind is empty for ever. -/

namespace Telemetry

variable {α : Type} {calm : Prop} {event : QueueEvent α} {place : Nat}

namespace HitQueue

/-- Closed and empty. -/
def Sealed (queue : HitQueue) : Prop := queue.closed = true ∧ queue.hits = []

/-- A queue is never opened again, and nothing comes into it once it is sealed. -/
structure Precedes (before after : HitQueue) : Prop where
  closed : before.closed = true → after.closed = true
  sealed : before.Sealed → after.Sealed

theorem Precedes.of_kept {before after : HitQueue} (closed : after.closed = before.closed)
    (hits : after.hits = before.hits) : before.Precedes after := by
  constructor
  · intro shut
    rw [closed, shut]
  · rintro ⟨shut, empty⟩
    exact ⟨closed.trans shut, hits.trans empty⟩

theorem Precedes.trans {before between after : HitQueue} (first : before.Precedes between)
    (second : between.Precedes after) : before.Precedes after :=
  ⟨second.closed ∘ first.closed, second.sealed ∘ first.sealed⟩

theorem precedes_enqueue {queue : HitQueue} {queued : QueuedHit} {room : Accepted}
    (taken : queue.enqueue queued = some room) : queue.Precedes room.queue := by
  have opened : ¬ queue.closed = true := by
    intro shut
    simp [enqueue, shut] at taken
  exact ⟨fun shut => absurd shut opened, fun shut => absurd shut.1 opened⟩

theorem precedes_drain (queue : HitQueue) : queue.Precedes queue.drain.2 :=
  ⟨id, fun shut => ⟨shut.1, rfl⟩⟩

theorem precedes_close (queue : HitQueue) : queue.Precedes queue.close :=
  ⟨fun _ => rfl, fun shut => ⟨rfl, shut.2⟩⟩

end HitQueue

/-- What a stage says about the queue. A loop that will stop has found it closed, and once it has
taken the hits the queue is sealed. -/
def Stage.Admits (queue : HitQueue) : Stage → Prop
  | .flushing true => queue.closed = true
  | .sending true _ | .stopped => queue.Sealed
  | _ => True

theorem Stage.Admits.later {stage : Stage} {before after : HitQueue}
    (admits : stage.Admits before) (precedes : before.Precedes after) : stage.Admits after := by
  cases stage with
  | flushing stop =>
      cases stop with
      | true => exact precedes.closed admits
      | false => trivial
  | sending stop batch =>
      cases stop with
      | true => exact precedes.sealed admits
      | false => trivial
  | stopped => exact precedes.sealed admits
  | _ => trivial

namespace HitLoop

variable {loop : HitLoop} {queue : HitQueue} {now ticket : Nat} {answer : Answer}
  {result : HitQueue × HitLoop}

theorem closed_wait : (loop.wait queue now ticket).1.closed = queue.closed := by
  unfold wait
  split <;> rfl

theorem closed_finish (stop : Bool) :
    (loop.finish queue now ticket stop).1.closed = queue.closed := by
  unfold finish
  split
  · rfl
  · exact closed_wait

theorem closed_step (moved : loop.step queue now ticket answer = some result) :
    result.1.closed = queue.closed := by
  cases step_moves moved with
  | settle fresh => exact closed_wait
  | pass saw empty => exact closed_finish _
  | resume handed => exact closed_finish _
  | _ => rfl

theorem precedes_step (moved : loop.step queue now ticket answer = some result) :
    queue.Precedes result.1 := by
  have closed := closed_step moved
  refine ⟨fun shut => closed.trans shut, ?_⟩
  rintro ⟨shut, empty⟩
  have taken := carried_step moved
  rw [empty] at taken
  exact ⟨closed.trans shut, (List.append_eq_nil_iff.mp taken).2⟩

theorem alive_wait : (loop.wait queue now ticket).2.stage.isAlive = true := by
  unfold wait
  split <;> rfl

theorem admits_wait (other : HitQueue) : (loop.wait queue now ticket).2.stage.Admits other := by
  unfold wait
  split <;> trivial

theorem admits_finish {stop : Bool} (shut : stop = true → queue.Sealed) :
    (loop.finish queue now ticket stop).2.stage.Admits
      (loop.finish queue now ticket stop).1 := by
  unfold finish
  split
  · rename_i stops
    exact shut stops
  · exact admits_wait _

/-- The flag is read before the hits are taken, so what a loop leaves is what its stage says. -/
theorem admits_step (admits : loop.stage.Admits queue)
    (moved : loop.step queue now ticket answer = some result) :
    result.2.stage.Admits result.1 := by
  have drained {stop : Bool} (saw : loop.stage = .flushing stop) (stops : stop = true) :
      queue.drain.2.Sealed := by
    rw [saw, stops] at admits
    exact ⟨admits, rfl⟩
  cases step_moves moved with
  | settle fresh => exact admits_wait _
  | due => trivial
  | look woken =>
      change (Stage.flushing queue.closed).Admits queue
      cases shut : queue.closed with
      | true => exact shut
      | false => trivial
  | pass saw empty => exact admits_finish (drained saw)
  | @take stop saw =>
      cases stop with
      | true => exact drained saw rfl
      | false => trivial
  | crash handed panicked => trivial
  | resume handed =>
      apply admits_finish
      intro stops
      rw [handed, stops] at admits
      exact admits

theorem alive_resumed (queue : HitQueue) (now ticket : Nat) {batch : List QueuedHit}
    (handed : loop.stage = .sending false batch)
    (quiet : ∀ message, answer ≠ .panicked message) :
    ∃ result, loop.step queue now ticket answer = some result ∧
      result.2.stage.isAlive = true := by
  refine ⟨loop.finish queue now ticket false, ?_, alive_wait⟩
  unfold step
  rw [handed]
  cases answer with
  | panicked message => exact absurd rfl (quiet message)
  | _ => rfl

theorem calm_step (quiet : ∀ message, answer ≠ .panicked message)
    (moved : loop.step queue now ticket answer = some result) : result.2.stage ≠ .crashed := by
  have waits (queue : HitQueue) : (loop.wait queue now ticket).2.stage ≠ .crashed := by
    intro crashed
    have alive : (loop.wait queue now ticket).2.stage.isAlive = true := alive_wait
    rw [crashed] at alive
    cases alive
  have finishes (queue : HitQueue) (stop : Bool) :
      (loop.finish queue now ticket stop).2.stage ≠ .crashed := by
    unfold finish
    split
    · intro same
      cases same
    · exact waits queue
  cases step_moves moved with
  | settle fresh => exact waits queue
  | pass saw empty => exact finishes _ _
  | crash handed panicked => exact absurd panicked (quiet _)
  | resume handed => exact finishes _ _
  | _ =>
      intro same
      cases same

end HitLoop

namespace Task

/-- Every loop has found the queue as its stage says. -/
def Orderly (task : Task α) : Prop := ∀ loop ∈ task.loops, loop.stage.Admits task.queue

/-- No loop was ended by a panic. -/
def Calm (task : Task α) : Prop := ∀ loop ∈ task.loops, loop.stage ≠ .crashed

theorem grant_cases (task : Task α) (ticket : Nat) :
    task.grant ticket = task ∨ ∃ index loop, task.loops[index]? = some loop ∧
      loop.stage.isWaiting = true ∧ task.grant ticket =
        { task with
          queue := { task.queue with permit := false }
          loops := task.loops.set index (loop.wake ticket) } := by
  unfold grant
  split
  · rename_i index found permitted first
    obtain ⟨held, waits⟩ := HitLoop.firstBy_found first
    exact .inr ⟨index, found, held, waits, rfl⟩
  · exact .inl rfl

theorem queue_withQueue (task : Task α) (queue : HitQueue) (ticket : Nat) :
    (task.withQueue queue ticket).queue.closed = queue.closed ∧
      (task.withQueue queue ticket).queue.hits = queue.hits := by
  unfold withQueue
  rcases grant_cases { task with queue } ticket with same | ⟨index, loop, held, waits, woken⟩
  · rw [same]
    exact ⟨rfl, rfl⟩
  · rw [woken]
    exact ⟨rfl, rfl⟩

theorem precedes_withQueue (task : Task α) (queue : HitQueue) (ticket : Nat) :
    queue.Precedes (task.withQueue queue ticket).queue :=
  .of_kept (task.queue_withQueue queue ticket).1 (task.queue_withQueue queue ticket).2

/-- Of the loops of a task whose permit is taken, all but the one that takes it are left alone. -/
theorem loop_grant {task : Task α} {ticket : Nat} {loop : HitLoop}
    (member : loop ∈ (task.grant ticket).loops) : loop ∈ task.loops ∨ loop.stage = .awake := by
  rcases task.grant_cases ticket with same | ⟨index, found, held, waits, woken⟩
  · rw [same] at member
    exact .inl member
  · rw [woken] at member
    rcases List.mem_or_eq_of_mem_set member with old | new
    · exact .inl old
    · exact .inr (congrArg HitLoop.stage new)

theorem stopped_grant {task : Task α} {ticket place : Nat} {loop : HitLoop}
    (found : task.loops[place]? = some loop) (stopped : loop.stage = .stopped) :
    (task.grant ticket).loops[place]? = some loop := by
  rcases task.grant_cases ticket with same | ⟨index, other, held, waits, woken⟩
  · rw [same]
    exact found
  · rw [woken]
    have apart : index ≠ place := by
      intro same
      rw [same, found] at held
      rw [← Option.some.inj held, stopped] at waits
      cases waits
    exact (List.getElem?_set_ne apart).trans found

theorem length_grant (task : Task α) (ticket : Nat) :
    (task.grant ticket).loops.length = task.loops.length := by
  rcases task.grant_cases ticket with same | ⟨index, other, held, waits, woken⟩
  · rw [same]
  · rw [woken, List.length_set]

theorem owner_grant (task : Task α) (ticket : Nat) : (task.grant ticket).owner = task.owner := by
  rcases task.grant_cases ticket with same | ⟨index, other, held, waits, woken⟩
  · rw [same]
  · rw [woken]

namespace Change

variable {task next : Task α}

theorem precedes (change : Change calm event place task next) :
    task.queue.Precedes next.queue := by
  cases change with
  | enqueue ticket taken =>
      exact (HitQueue.precedes_enqueue taken).trans (task.precedes_withQueue _ ticket)
  | drain ticket => exact task.queue.precedes_drain.trans (task.precedes_withQueue _ ticket)
  | close ticket asked => exact task.queue.precedes_close.trans (task.precedes_withQueue _ ticket)
  | step held quiet moved =>
      obtain ⟨result, stepped, rfl⟩ := Option.map_eq_some_iff.mp moved
      exact HitLoop.precedes_step stepped
  | start turn asked => exact .of_kept rfl rfl
  | adjust asked => exact .of_kept rfl rfl

theorem loops (change : Change calm event place task next) {loop : HitLoop}
    (member : loop ∈ next.loops) :
    loop ∈ task.loops ∨ loop.stage = .awake ∨ loop.stage = .ready ∨
      ∃ now ticket answer before, before ∈ task.loops ∧
        (calm → ∀ message, answer ≠ .panicked message) ∧
        before.step task.queue now ticket answer = some (next.queue, loop) := by
  cases change with
  | enqueue ticket taken => exact (loop_grant member).imp_right .inl
  | drain ticket => exact (loop_grant member).imp_right .inl
  | close ticket asked => exact (loop_grant member).imp_right .inl
  | @step index now ticket before answer _ held quiet moved =>
      obtain ⟨result, stepped, rfl⟩ := Option.map_eq_some_iff.mp moved
      rcases List.mem_or_eq_of_mem_set member with old | new
      · exact .inl old
      · rw [new]
        have here := List.mem_of_getElem? held
        exact .inr (.inr (.inr ⟨now, ticket, answer, before, here, quiet, stepped⟩))
  | start turn asked =>
      rcases List.mem_append.mp member with old | new
      · exact .inl old
      · rw [List.mem_singleton.mp new]
        exact .inr (.inr (.inl rfl))
  | adjust asked => exact .inl member

theorem orderly (change : Change calm event place task next) (orderly : task.Orderly) :
    next.Orderly := by
  intro loop member
  rcases change.loops member with old | woken | fresh | ⟨_, _, _, before, here, _, stepped⟩
  · exact (orderly loop old).later change.precedes
  · rw [woken]
    trivial
  · rw [fresh]
    trivial
  · exact HitLoop.admits_step (orderly before here) stepped

theorem calm_of (change : Change calm event place task next) (quiet : calm) (peace : task.Calm) :
    next.Calm := by
  intro loop member
  rcases change.loops member with old | woken | fresh | ⟨_, _, _, before, here, silent, stepped⟩
  · exact peace loop old
  · rw [woken]
    intro same
    cases same
  · rw [fresh]
    intro same
    cases same
  · exact HitLoop.calm_step (silent quiet) stepped

theorem stopped (change : Change calm event place task next) {index : Nat} {loop : HitLoop}
    (found : task.loops[index]? = some loop) (stopped : loop.stage = .stopped) :
    next.loops[index]? = some loop := by
  cases change with
  | enqueue ticket taken => exact stopped_grant found stopped
  | drain ticket => exact stopped_grant found stopped
  | close ticket asked => exact stopped_grant found stopped
  | @step other now ticket before answer _ held quiet moved =>
      obtain ⟨result, stepped, rfl⟩ := Option.map_eq_some_iff.mp moved
      have apart : other ≠ index := by
        intro same
        rw [same, found] at held
        rw [← Option.some.inj held, HitLoop.step, stopped] at stepped
        cases stepped
      exact (List.getElem?_set_ne apart).trans found
  | start turn asked =>
      have inside := (List.getElem?_eq_some_iff.mp found).1
      exact (List.getElem?_append_left inside).trans found
  | adjust asked => exact found

theorem length (change : Change calm event place task next) (kept : event ≠ .start place) :
    next.loops.length = task.loops.length := by
  cases change with
  | enqueue ticket taken => exact length_grant _ ticket
  | drain ticket => exact length_grant _ ticket
  | close ticket asked => exact length_grant _ ticket
  | step held quiet moved =>
      obtain ⟨result, stepped, rfl⟩ := Option.map_eq_some_iff.mp moved
      exact List.length_set
  | start turn asked => exact absurd asked kept
  | adjust asked => rfl

theorem owner (change : Change calm event place task next) :
    next.owner = task.owner ∨
      ∃ adjust, event = .adjust place adjust ∧ next.owner = adjust task.owner := by
  cases change with
  | enqueue ticket taken => exact .inl (owner_grant _ ticket)
  | drain ticket => exact .inl (owner_grant _ ticket)
  | close ticket asked => exact .inl (owner_grant _ ticket)
  | step held quiet moved =>
      obtain ⟨result, stepped, rfl⟩ := Option.map_eq_some_iff.mp moved
      exact .inl rfl
  | start turn asked => exact .inl rfl
  | adjust asked => exact .inr ⟨_, asked, rfl⟩

theorem closed (change : Change calm event place task next) (kept : event ≠ .close place) :
    next.queue.closed = task.queue.closed := by
  cases change with
  | @enqueue queued room ticket taken =>
      rw [(task.queue_withQueue room.queue ticket).1]
      unfold HitQueue.enqueue at taken
      split at taken
      · cases taken
      · cases taken
        unfold HitQueue.makeRoom
        split
        · split <;> rfl
        · rfl
  | drain ticket => exact (task.queue_withQueue _ ticket).1
  | close ticket asked => exact absurd asked kept
  | step held quiet moved =>
      obtain ⟨result, stepped, rfl⟩ := Option.map_eq_some_iff.mp moved
      exact HitLoop.closed_step stepped
  | start turn asked => rfl
  | adjust asked => rfl

end Change

end Task

end Telemetry
