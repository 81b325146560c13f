import Telemetry.Proofs.Queue.FinalFlush

/-! What one event makes of one queue with one loop. A call changes the queue and wakes the loop at
most; a step of the loop is the only thing that moves it. Whatever holds of a processor over all its
runs needs no more than these cases. -/

namespace Telemetry

open Journal

variable {α : Type}

def Stage.isFlushing : Stage → Bool
  | .flushing _ => true
  | _ => false

theorem Stage.batch?_of_isFlushing {stage : Stage} (flushing : stage.isFlushing = true) :
    stage.batch? = none := by
  cases stage <;> first | rfl | cases flushing

/-- The loop has been left alone, or its wait has been ended. -/
def HitLoop.Stirred (before after : HitLoop) : Prop :=
  after = before ∨ before.stage.isWaiting = true ∧ after.stage = .awake

theorem HitLoop.Stirred.batch {before after : HitLoop} (stirred : before.Stirred after) :
    after.stage.batch? = before.stage.batch? := by
  rcases stirred with same | ⟨waits, woken⟩
  · rw [same]
  · rw [woken]
    cases stage : before.stage <;> rw [stage] at waits <;> first | rfl | cases waits

theorem Task.withQueue_lone {task : Task α} {loop : HitLoop} (single : task.loops = [loop])
    (queue : HitQueue) (ticket : Nat) :
    ∃ later, (task.withQueue queue ticket).loops = [later] ∧ loop.Stirred later ∧
      (task.withQueue queue ticket).queue.config = queue.config ∧
      (task.withQueue queue ticket).courier = task.courier := by
  unfold withQueue
  rcases grant_cases { task with queue } ticket with same | ⟨index, found, held, waits, woken⟩
  · rw [same]
    exact ⟨loop, single, .inl rfl, rfl, rfl⟩
  · rw [woken]
    have first : task.loops[index]? = some found := held
    rw [single] at first
    obtain ⟨inside, rfl⟩ := List.getElem?_eq_some_iff.mp first
    obtain rfl : index = 0 := Nat.lt_one_iff.mp inside
    refine ⟨loop.wake ticket, ?_, .inr ⟨waits, rfl⟩, rfl, rfl⟩
    simp only [single, List.set_cons_zero, List.getElem_cons_zero]

namespace Processor

/-- One queue with one loop; nobody is told of panics. -/
structure Lone (engine : Engine Unit) (task : Task Unit) (loop : HitLoop) : Prop where
  alone : engine.tasks = [task]
  single : task.loops = [loop]
  courier : task.courier = 0
  unheard : engine.witness = none

/-- What an event makes of a queue with one loop. -/
inductive Turn (engine : Engine Unit) (task : Task Unit) (loop : HitLoop) :
    ProcessorEvent → Engine Unit → Task Unit → HitLoop → Prop where
  | refused {hit : Hit} (closed : task.queue.closed = true)
      (result : engine.enqueue 0 hit = (.error .closed, engine)) :
      Turn engine task loop (.enqueue hit) engine task loop
  | entered {hit : Hit} {room : HitQueue.Accepted} {after : Engine Unit} {next : Task Unit}
      {later : HitLoop} (opened : task.queue.closed = false)
      (taken : task.queue.enqueue (engine.stamped hit) = some room)
      (answer : (engine.enqueue 0 hit).1 = .ok ())
      (config : next.queue.config = room.queue.config)
      (closed : next.queue.closed = room.queue.closed)
      (hits : next.queue.hits = room.queue.hits) (stirred : loop.Stirred later)
      (outbox : after.outbox =
        (engine.outbox.stamp hit).2.note (ofArrival 0 room.dropped (engine.stamped hit))) :
      Turn engine task loop (.enqueue hit) after next later
  | emptied {after : Engine Unit} {next : Task Unit} {later : HitLoop}
      (config : next.queue.config = task.queue.config)
      (closed : next.queue.closed = task.queue.closed) (hits : next.queue.hits = [])
      (stirred : loop.Stirred later)
      (outbox : after.outbox = if task.queue.hits.isEmpty then engine.outbox
        else (engine.outbox.deliver 0 0 task.queue.hits).2) :
      Turn engine task loop .flush after next later
  | shut {after : Engine Unit} {next : Task Unit} {later : HitLoop}
      (config : next.queue.config = task.queue.config) (closed : next.queue.closed = true)
      (hits : next.queue.hits = task.queue.hits) (stirred : loop.Stirred later)
      (outbox : after.outbox = engine.outbox) :
      Turn engine task loop .shutdown after next later
  | passed (milliseconds : Nat) {after : Engine Unit} (outbox : after.outbox = engine.outbox) :
      Turn engine task loop (.pass milliseconds) after task loop
  | rested (stays : loop.step task.queue engine.now engine.ticket
      (task.deliver loop 0 engine.outbox).1 = none) :
      Turn engine task loop .step engine task loop
  | moved {after : Engine Unit} {queue : HitQueue} {later : HitLoop}
      (moves : loop.step task.queue engine.now engine.ticket
        (task.deliver loop 0 engine.outbox).1 = some (queue, later))
      (outbox : after.outbox = (task.deliver loop 0 engine.outbox).2) :
      Turn engine task loop .step after { task with queue, loops := [later] } later

variable {engine : Engine Unit} {task : Task Unit} {loop : HitLoop}

theorem Lone.found (lone : Lone engine task loop) : engine.tasks[0]? = some task := by
  rw [lone.alone]
  rfl

theorem Lone.setQueue (lone : Lone engine task loop) (queue : HitQueue) :
    ∃ later, Lone (engine.setQueue 0 queue) (task.withQueue queue engine.ticket) later ∧
      loop.Stirred later ∧
      (task.withQueue queue engine.ticket).queue.config = queue.config := by
  obtain ⟨later, single, stirred, config, courier⟩ :=
    task.withQueue_lone lone.single queue engine.ticket
  refine ⟨later, ⟨?_, single, courier.trans lone.courier, ?_⟩, stirred, config⟩
  · unfold Engine.setQueue Engine.modify
    rw [lone.found]
    simp only [lone.alone, List.set_cons_zero]
  · exact (Engine.witness_modify engine 0 _).trans lone.unheard

theorem Lone.move (lone : Lone engine task loop) :
    engine.move 0 0 = (loop.step task.queue engine.now engine.ticket
      (task.deliver loop 0 engine.outbox).1).map fun moved =>
        { engine with
          ticket := engine.ticket + 1
          tasks := [{ task with queue := moved.1, loops := [moved.2] }]
          outbox := (task.deliver loop 0 engine.outbox).2 } := by
  have held : task.loops[0]? = some loop := by rw [lone.single]; rfl
  simp only [Engine.move, lone.found, held, Task.step, Option.map_map]
  congr 1
  funext moved
  simp only [Function.comp_apply]
  rw [Engine.report_unreported (by exact .inr lone.unheard), lone.alone, lone.single,
    List.set_cons_zero, List.set_cons_zero]

theorem Lone.turn (lone : Lone engine task loop) (next : ProcessorEvent) :
    ∃ after later, Lone (engine.after (event next)) after later ∧
      Turn engine task loop next (engine.after (event next)) after later := by
  cases next with
  | enqueue hit =>
      change ∃ after later, Lone (engine.enqueue 0 hit).2 after later ∧
        Turn engine task loop (.enqueue hit) (engine.enqueue 0 hit).2 after later
      rcases engine.enqueue_cases 0 hit with
        ⟨refused, closed⟩ | ⟨held, room, found, opened, taken, result⟩
      · have same : (engine.enqueue 0 hit).2 = engine := congrArg Prod.snd refused
        rw [same]
        exact ⟨task, loop, lone, .refused (closed task lone.found) refused⟩
      · obtain rfl : task = held := Option.some.inj (lone.found.symm.trans found)
        obtain ⟨later, changed, stirred, config⟩ := lone.setQueue room.queue
        obtain ⟨closed, hits⟩ := task.queue_withQueue room.queue engine.ticket
        have answer : (engine.enqueue 0 hit).1 = .ok () := by rw [result]
        rw [result]
        exact ⟨_, later, ⟨changed.alone, changed.single, changed.courier, changed.unheard⟩,
          .entered opened taken answer config closed hits stirred rfl⟩
  | flush =>
      change ∃ after later, Lone (engine.flush 0).2 after later ∧
        Turn engine task loop .flush (engine.flush 0).2 after later
      obtain ⟨later, changed, stirred, config⟩ := lone.setQueue task.queue.drain.2
      obtain ⟨closed, hits⟩ := task.queue_withQueue task.queue.drain.2 engine.ticket
      have outbox := Engine.outbox_setQueue engine 0 task.queue.drain.2
      simp only [Engine.flush, lone.found]
      by_cases empty : task.queue.hits.isEmpty = true
      · rw [if_pos (by exact empty)]
        refine ⟨_, later, changed, .emptied config closed hits stirred ?_⟩
        rw [if_pos empty]
        exact outbox
      · rw [if_neg (by exact empty), Engine.report_unreported (by exact .inr changed.unheard)]
        refine ⟨_, later, ⟨changed.alone, changed.single, changed.courier, changed.unheard⟩,
          .emptied config closed hits stirred ?_⟩
        rw [if_neg empty, ← outbox, ← lone.courier]
        rfl
  | shutdown =>
      change ∃ after later, Lone (engine.close 0) after later ∧
        Turn engine task loop .shutdown (engine.close 0) after later
      obtain ⟨later, changed, stirred, config⟩ := lone.setQueue task.queue.close
      obtain ⟨closed, hits⟩ := task.queue_withQueue task.queue.close engine.ticket
      simp only [Engine.close, Engine.queue?, lone.found, Option.map_some]
      exact ⟨_, later, changed,
        .shut config closed hits stirred (Engine.outbox_setQueue engine 0 _)⟩
  | step =>
      change ∃ after later, Lone ((engine.move 0 0).getD engine) after later ∧
        Turn engine task loop .step ((engine.move 0 0).getD engine) after later
      rw [lone.move]
      cases stepped : loop.step task.queue engine.now engine.ticket
          (task.deliver loop 0 engine.outbox).1 with
      | none => exact ⟨task, loop, lone, .rested stepped⟩
      | some moved =>
          exact ⟨_, moved.2, ⟨rfl, rfl, lone.courier, lone.unheard⟩, .moved stepped rfl⟩
  | pass milliseconds =>
      exact ⟨task, loop, ⟨lone.alone, lone.single, lone.courier, lone.unheard⟩,
        .passed milliseconds rfl⟩

theorem lone_launched (config : QueueConfig) (courier : Courier) (world : World) :
    Lone (launched config courier world)
      { owner := (), queue := { config }, loops := [{ turn := 0 }] } { turn := 0 } :=
  ⟨rfl, rfl, rfl, rfl⟩

end Processor

end Telemetry
