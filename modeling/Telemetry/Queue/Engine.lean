import Telemetry.Queue.Task
/-!
Queues and their loops on one clock.

The loops share the clock and the couriers that take their batches.  A loop runs only when
somebody waits: then the loops go on in the order in which they were woken, each until it waits
itself.  When the clock moves, it stops at every point of time for which a loop waits.
-/

namespace Telemetry

/-- All queues, with their clock in milliseconds. -/
structure Engine (α : Type) where
  now : Nat := 0
  ticket : Nat := 0
  tasks : List (Task α) := []
  outbox : Outbox := {}
  /-- The queue in which a panic during a delivery is reported, if it is reported. -/
  witness : Option Nat := none
  deriving Inhabited

namespace Engine

variable {α : Type}

def weight (engine : Engine α) : Nat := total (Task.weight engine.now) engine.tasks

def add (engine : Engine α) (owner : α) (courier : Nat) (config : QueueConfig) : Engine α :=
  { engine with tasks := engine.tasks ++ [{ owner, courier, queue := { config } }] }

/-- Changes a queue or its loops, which uses up a turn. -/
def modify (engine : Engine α) (index : Nat) (change : Task α → Task α) : Engine α :=
  match engine.tasks[index]? with
  | none => engine
  | some task =>
      { engine with
        ticket := engine.ticket + 1
        tasks := engine.tasks.set index (change task) }

/-- Puts another state of a queue into its place; its permit goes to the loop that has waited
longest. -/
def setQueue (engine : Engine α) (index : Nat) (queue : HitQueue) : Engine α :=
  engine.modify index fun task => task.withQueue queue engine.ticket

def queue? (engine : Engine α) (index : Nat) : Option HitQueue :=
  (engine.tasks[index]?).map (·.queue)

def log (engine : Engine α) (events : List LogEvent) : Engine α :=
  { engine with outbox := engine.outbox.log events }

def start (engine : Engine α) (index : Nat) : Engine α :=
  engine.modify index fun task =>
    { task with loops := task.loops ++ [{ turn := engine.ticket }] }

def enqueue (engine : Engine α) (index : Nat) (hit : Hit) :
    Except ServiceError Unit × Engine α :=
  let stamped := engine.outbox.stamp hit
  match (engine.queue? index).bind (·.enqueue stamped.1) with
  | none => (.error .closed, engine)
  | some accepted =>
      let dropped := accepted.dropped.toList.map (Happening.dropped index)
      let outbox := stamped.2.note (dropped ++ [.accepted index stamped.1])
      (.ok (), { engine.setQueue index accepted.queue with outbox })

def report (engine : Engine α) (answer : Answer) : Engine α :=
  match answer, engine.witness with
  | .panicked message, some index => (engine.enqueue index (.ofFailure message true)).2
  | _, _ => engine

def flush (engine : Engine α) (index : Nat) : Answer × Engine α :=
  match engine.tasks[index]? with
  | none => (.delivered, engine)
  | some task =>
      let drained := task.queue.drain
      let emptied := engine.setQueue index drained.2
      if drained.1.isEmpty then (.delivered, emptied)
      else
        let delivered := emptied.outbox.deliver index task.courier drained.1
        (delivered.1, { emptied with outbox := delivered.2 }.report delivered.1)

def close (engine : Engine α) (index : Nat) : Engine α :=
  match engine.queue? index with
  | none => engine
  | some queue => engine.setQueue index queue.close

def nextLoop? (now : Nat) : List (Task α) → Option (Nat × Nat × HitLoop)
  | [] => none
  | task :: rest =>
      let later := (nextLoop? now rest).map fun (index, found) => (index + 1, found)
      match HitLoop.firstBy? (·.stage.goesOn now) task.loops, later with
      | none, _ => later
      | some own, none => some (0, own)
      | some own, some other =>
          if other.2.2.turn < own.2.turn then some other else some (0, own)

def move (engine : Engine α) (index place : Nat) : Option (Engine α) :=
  match engine.tasks[index]? with
  | none => none
  | some task =>
      match task.loops[place]? with
      | none => none
      | some loop =>
          let delivered := task.deliver loop index engine.outbox
          (task.step place engine.now engine.ticket loop delivered.1).map fun next =>
            { engine with
              ticket := engine.ticket + 1
              tasks := engine.tasks.set index next
              outbox := delivered.2 }.report delivered.1

def step (engine : Engine α) : Option (Engine α) :=
  match nextLoop? engine.now engine.tasks with
  | none => none
  | some (index, place, _) => engine.move index place

theorem now_modify (engine : Engine α) (index : Nat) (change : Task α → Task α) :
    (engine.modify index change).now = engine.now := by
  unfold modify
  split <;> rfl

theorem now_report (engine : Engine α) (answer : Answer) :
    (engine.report answer).now = engine.now := by
  unfold report enqueue
  dsimp only
  split
  · split
    · rfl
    · exact now_modify engine _ _
  · rfl

theorem weight_setQueue (engine : Engine α) (index : Nat) (queue : HitQueue) :
    (engine.setQueue index queue).weight ≤ engine.weight + 10 := by
  unfold setQueue modify
  split
  · omega
  · rename_i task found
    have sums := total_set (Task.weight engine.now) engine.tasks index
      (task.withQueue queue engine.ticket) task found
    have bound := task.weight_withQueue queue engine.now engine.ticket
    simp only [weight]
    omega

theorem weight_report (engine : Engine α) (answer : Answer) :
    (engine.report answer).weight ≤ engine.weight + 10 := by
  unfold report enqueue
  dsimp only
  split
  · split
    · exact Nat.le_add_right _ _
    · exact weight_setQueue engine _ _
  · exact Nat.le_add_right _ _

theorem report_calm {engine : Engine α} {answer : Answer}
    (calm : ∀ message, answer ≠ .panicked message) : engine.report answer = engine := by
  unfold report
  split
  · exact absurd rfl (calm _)
  · rfl

theorem move_descends {engine next : Engine α} {index place : Nat}
    (moved : engine.move index place = some next) :
    next.now = engine.now ∧ next.weight < engine.weight := by
  unfold move at moved
  split at moved
  · simp at moved
  · rename_i task found
    split at moved
    · simp at moved
    · rename_i loop held
      obtain ⟨after, stepped, rfl⟩ := Option.map_eq_some_iff.mp moved
      have sums := total_set (Task.weight engine.now) engine.tasks index after task found
      refine ⟨now_report _ _, ?_⟩
      by_cases calm : ∀ message, (task.deliver loop index engine.outbox).1 ≠ .panicked message
      · rw [report_calm calm]
        have falls := Task.weight_step held stepped
        simp only [weight]
        omega
      · obtain ⟨message, panicked⟩ := Classical.not_forall.mp calm
        have panicked := Classical.not_not.mp panicked
        rw [panicked] at stepped ⊢
        cases holds : loop.stage.batch? with
        | none => simp [Task.deliver_idle holds] at panicked
        | some batch =>
            have falls := Task.weight_step_panicked held holds stepped
            have bound := weight_report
              { engine with
                ticket := engine.ticket + 1
                tasks := engine.tasks.set index after
                outbox := (task.deliver loop index engine.outbox).2 } (.panicked message)
            simp only [weight] at bound ⊢
            omega

/-- Left alone, all loops soon wait or end. -/
theorem step_descends {engine next : Engine α} (moved : engine.step = some next) :
    next.now = engine.now ∧ next.weight < engine.weight := by
  unfold step at moved
  split at moved
  · simp at moved
  · exact move_descends moved

def settle (engine : Engine α) : Engine α :=
  match _ : engine.step with
  | none => engine
  | some next => next.settle
termination_by engine.weight
decreasing_by exact (step_descends (by assumption)).2

theorem now_settle (engine : Engine α) : engine.settle.now = engine.now := by
  fun_induction settle engine with
  | case1 => rfl
  | case2 engine next moved ih => rw [ih, (step_descends moved).1]

def nextDeadline? (engine : Engine α) : Option Nat :=
  (engine.tasks.flatMap fun task => task.loops.filterMap (·.stage.deadline?)).min?

def nextStop (engine : Engine α) (target : Nat) : Nat :=
  match engine.nextDeadline? with
  | some deadline => min target (max deadline (engine.now + 1))
  | none => target

def runUntil (engine : Engine α) (target : Nat) : Engine α :=
  if engine.now < target then
    runUntil ({ engine with now := engine.nextStop target }.settle) target
  else engine
termination_by target - engine.now
decreasing_by
  rw [now_settle]
  simp only [nextStop]
  split <;> omega

def sleep (engine : Engine α) (milliseconds : Nat) : Engine α :=
  engine.settle.runUntil (engine.now + milliseconds)

end Engine

end Telemetry
