import Telemetry.Proofs.Queue.Handover

/-! Waiting hits are sent in time. A loop that is left to itself takes the hits of its queue no later
than one flush interval from now, unless it is ended by a panic. -/

namespace Telemetry

open Processor

/-- A loop in this stage is going to take the hits of its queue no later than at the given point of
time. -/
def Stage.Hastens (queue : HitQueue) (now target : Nat) : Stage → Prop
  | .waiting deadline => deadline ≤ target
  | .awake | .flushing _ => True
  | .ready | .sending false _ => queue.nextDeadline now ≤ target
  | .sending true _ | .stopped | .crashed => False

namespace HitLoop

variable {loop : HitLoop} {queue : HitQueue} {now later ticket target : Nat} {answer : Answer}
  {result : HitQueue × HitLoop}

/-- Nothing waits, or the loop is going to take it. -/
def Drains (loop : HitLoop) (queue : HitQueue) (now target : Nat) : Prop :=
  queue.hits = [] ∨ loop.stage.Hastens queue now target

theorem drains_wait (soon : queue.nextDeadline now ≤ target) :
    (loop.wait queue now ticket).2.Drains (loop.wait queue now ticket).1 now target := by
  right
  unfold wait
  split
  · trivial
  · exact soon

theorem drains_step (quiet : ∀ message, answer ≠ .panicked message)
    (drains : loop.Drains queue now target)
    (moved : loop.step queue now ticket answer = some result) :
    result.2.Drains result.1 now target := by
  cases step_moves moved with
  | settle fresh =>
      rcases drains with empty | soon
      · left
        rw [hits_wait, empty]
      · rw [fresh] at soon
        exact drains_wait soon
  | due =>
      right
      trivial
  | look woken =>
      right
      trivial
  | pass saw empty =>
      left
      rw [hits_finish]
      rfl
  | take saw =>
      left
      rfl
  | crash handed panicked => exact absurd panicked (quiet _)
  | @resume stop batch handed =>
      rcases drains with empty | soon
      · left
        rw [hits_finish, empty]
      · rw [handed] at soon
        cases stop with
        | true => cases soon
        | false => exact drains_wait soon

theorem drains_later (rests : loop.stage.goesOn now = false)
    (drains : loop.Drains queue now target) : loop.Drains queue later target := by
  rcases drains with empty | soon
  · exact .inl empty
  · right
    obtain ⟨stage, turn⟩ := loop
    cases stage with
    | waiting deadline => exact soon
    | stopped => cases soon
    | crashed => cases soon
    | _ => cases rests

theorem empty_of_rests (rests : loop.stage.goesOn now = false) (reached : target ≤ now)
    (drains : loop.Drains queue now target) : queue.hits = [] := by
  rcases drains with empty | soon
  · exact empty
  · obtain ⟨stage, turn⟩ := loop
    cases stage with
    | waiting deadline =>
        have late : ¬deadline ≤ now := of_decide_eq_false rests
        change deadline ≤ target at soon
        omega
    | stopped => cases soon
    | crashed => cases soon
    | _ => cases rests

/-- A wait that a step begins ends no later than one flush interval from now. -/
theorem deadline_step (moved : loop.step queue now ticket answer = some result) {deadline : Nat}
    (waits : result.2.stage = .waiting deadline) : deadline = queue.nextDeadline now := by
  have begun (queue : HitQueue) (waits : (loop.wait queue now ticket).2.stage = .waiting deadline) :
      deadline = queue.nextDeadline now := by
    unfold wait at waits
    split at waits
    · cases waits
    · cases waits
      rfl
  have finished (queue : HitQueue) (stop : Bool)
      (waits : (loop.finish queue now ticket stop).2.stage = .waiting deadline) :
      deadline = queue.nextDeadline now := by
    unfold finish at waits
    split at waits
    · cases waits
    · exact begun queue waits
  cases step_moves moved with
  | settle fresh => exact begun queue waits
  | pass saw empty => exact finished queue.drain.2 _ waits
  | resume handed => exact finished queue _ waits
  | _ => cases waits

end HitLoop

namespace Processor

/-- The loop is going to take the hits that wait, and no courier gets in its way. -/
structure Draining (engine : Engine Unit) (task : Task Unit) (loop : HitLoop) (target : Nat) :
    Prop where
  lone : Lone engine task loop
  returns : engine.outbox.Returns
  calm : loop.stage ≠ .crashed
  drains : loop.Drains task.queue engine.now target

variable {engine next : Engine Unit} {task : Task Unit} {loop : HitLoop} {target : Nat}

theorem Draining.step (draining : Draining engine task loop target)
    (moved : engine.step = some next) :
    ∃ after later, Draining next after later target := by
  unfold Engine.step at moved
  cases going : Engine.nextLoop? engine.now engine.tasks with
  | none =>
      rw [going] at moved
      cases moved
  | some found =>
      obtain ⟨index, place, chosen⟩ := found
      obtain ⟨own, here, held, _⟩ := (Engine.nextLoop_spec _ _).2 index place chosen going
      rw [draining.lone.alone] at here
      obtain ⟨first, rfl⟩ := List.getElem?_eq_some_iff.mp here
      obtain rfl : index = 0 := Nat.lt_one_iff.mp first
      change task.loops[place]? = some chosen at held
      rw [draining.lone.single] at held
      obtain ⟨second, _⟩ := List.getElem?_eq_some_iff.mp held
      obtain rfl : place = 0 := Nat.lt_one_iff.mp second
      rw [going] at moved
      dsimp only at moved
      rw [draining.lone.move] at moved
      obtain ⟨⟨queue, later⟩, stepped, rfl⟩ := Option.map_eq_some_iff.mp moved
      obtain ⟨quiet, returns⟩ := task.returns_deliver loop 0 draining.returns
      refine ⟨_, later, ⟨rfl, rfl, draining.lone.courier, draining.lone.unheard⟩, returns, ?_, ?_⟩
      · exact HitLoop.calm_step quiet stepped
      · exact HitLoop.drains_step quiet draining.drains stepped

theorem Draining.settle (draining : Draining engine task loop target) :
    ∃ after later, Draining engine.settle after later target := by
  fun_induction Engine.settle engine generalizing task loop with
  | case1 engine rests => exact ⟨task, loop, draining⟩
  | case2 engine next moved ih =>
      obtain ⟨after, later, reached⟩ := draining.step moved
      exact ih reached

theorem Draining.rests (draining : Draining engine task loop target)
    (rests : engine.step = none) : loop.stage.goesOn engine.now = false := by
  apply Engine.still_of_rests rests task
  · rw [draining.lone.alone]
    exact List.mem_singleton_self task
  · rw [draining.lone.single]
    exact List.mem_singleton_self loop

/-- When the clock has reached the given point of time, nothing waits any more. -/
theorem Draining.runUntil (draining : Draining engine task loop target)
    (rests : engine.step = none) :
    ∃ after later, Draining (engine.runUntil target) after later target ∧
      after.queue.hits = [] := by
  fun_induction Engine.runUntil engine target generalizing task loop with
  | case1 engine before ih =>
      have ticked : Draining { engine with now := engine.nextStop target } task loop target := by
        obtain ⟨alone, single, courier, unheard⟩ := draining.lone
        constructor
        · exact ⟨alone, single, courier, unheard⟩
        · exact draining.returns
        · exact draining.calm
        · exact HitLoop.drains_later (draining.rests rests) draining.drains
      obtain ⟨after, later, settled⟩ := ticked.settle
      exact ih settled (Engine.step_settle _)
  | case2 engine reached =>
      refine ⟨task, loop, draining, ?_⟩
      exact HitLoop.empty_of_rests (draining.rests rests) (Nat.not_lt.mp reached) draining.drains

variable {config : QueueConfig} {courier : Courier} {world : World} {past : List ProcessorEvent}

theorem now_after (engine : Engine Unit) (next : ProcessorEvent) :
    engine.now ≤ (engine.after (event next)).now := by
  cases next with
  | enqueue hit =>
      change engine.now ≤ (engine.enqueue 0 hit).2.now
      unfold Engine.enqueue
      dsimp only
      split
      · exact Nat.le_refl _
      · exact Nat.le_of_eq (Engine.now_modify engine _ _).symm
  | flush =>
      change engine.now ≤ (engine.flush 0).2.now
      unfold Engine.flush
      split
      · exact Nat.le_refl _
      · dsimp only
        split
        · exact Nat.le_of_eq (Engine.now_modify engine _ _).symm
        · rw [Engine.now_report]
          exact Nat.le_of_eq (Engine.now_modify engine _ _).symm
  | shutdown =>
      change engine.now ≤ (engine.close 0).now
      unfold Engine.close
      split
      · exact Nat.le_refl _
      · exact Nat.le_of_eq (Engine.now_modify engine _ _).symm
  | step =>
      change engine.now ≤ ((engine.move 0 0).getD engine).now
      cases moved : engine.move 0 0 with
      | none => exact Nat.le_refl _
      | some next => exact Nat.le_of_eq (Engine.move_descends moved).1.symm
  | pass milliseconds => exact Nat.le_add_right _ _

theorem Turn.deadline {after : Engine Unit} {changed : Task Unit} {later : HitLoop}
    {event : ProcessorEvent} (turn : Turn engine task loop event after changed later)
    {deadline : Nat} (waits : later.stage = .waiting deadline) :
    loop.stage = .waiting deadline ∨ deadline = task.queue.nextDeadline engine.now := by
  have stirred (moved : loop.Stirred later) : loop.stage = .waiting deadline := by
    rcases moved with same | ⟨_, woken⟩
    · rw [← same]
      exact waits
    · rw [woken] at waits
      cases waits
  cases turn with
  | refused => exact .inl waits
  | entered opened taken answer config closed hits moved => exact .inl (stirred moved)
  | emptied config closed hits moved => exact .inl (stirred moved)
  | shut config closed hits moved => exact .inl (stirred moved)
  | passed => exact .inl waits
  | rested => exact .inl waits
  | moved moves => exact .inr (HitLoop.deadline_step moves waits)

theorem deadline_le (config : QueueConfig) (courier : Courier) (world : World)
    (past : List ProcessorEvent) :
    ∃ task loop, Keeps config courier world past task loop ∧
      ∀ deadline, loop.stage = .waiting deadline →
        deadline ≤ (run config courier world past).now + max 1 config.flushInterval.roundedUp := by
  induction past using List.reverseRecOn with
  | nil =>
      refine ⟨_, _, keeps_launched config courier world, fun deadline waits => ?_⟩
      cases waits
  | append_singleton past next ih =>
      obtain ⟨task, loop, held, bounded⟩ := ih
      obtain ⟨after, later, reached, turn⟩ := held.next next
      refine ⟨after, later, reached, fun deadline waits => ?_⟩
      have forward := now_after (run config courier world past) next
      rw [← run_snoc] at forward
      rcases turn.deadline waits with old | new
      · have before := bounded deadline old
        omega
      · rw [new, HitQueue.nextDeadline, held.configured]
        omega

theorem Keeps.steady {task : Task Unit} {loop : HitLoop}
    (keeps : Keeps config courier world past task loop) (returns : courier.Returns) :
    Steady config courier world past task loop := by
  obtain ⟨own, only, found⟩ := Processor.steady config returns past
  obtain rfl : own = task := List.singleton_inj.mp (found.alone.symm.trans keeps.lone.alone)
  obtain rfl : only = loop := List.singleton_inj.mp (found.single.symm.trans keeps.lone.single)
  exact found

/-- With a courier that always answers, a loop that is left alone for one flush interval has taken all
that waited, and no panic has ended it. -/
theorem drained_within_interval (config : QueueConfig) {courier : Courier}
    (returns : courier.Returns) (world : World) (past : List ProcessorEvent) :
    ∃ task loop,
      Lone ((run config courier world past).sleep
        (max 1 config.flushInterval.roundedUp)) task loop ∧
        task.queue.hits = [] ∧ loop.stage ≠ .crashed := by
  obtain ⟨task, loop, held, bounded⟩ := deadline_le config courier world past
  have found := held.steady returns
  have soon : task.queue.nextDeadline (run config courier world past).now ≤
      (run config courier world past).now + max 1 config.flushInterval.roundedUp := by
    rw [HitQueue.nextDeadline, held.configured]
  have draining : Draining (run config courier world past) task loop
      ((run config courier world past).now + max 1 config.flushInterval.roundedUp) := by
    constructor
    · exact held.lone
    · exact found.returns
    · exact found.calm
    · have admits := found.admits
      unfold HitLoop.Drains
      cases stage : loop.stage with
      | ready => exact .inr soon
      | waiting deadline => exact .inr (bounded deadline stage)
      | awake => exact .inr trivial
      | flushing stop => exact .inr trivial
      | sending stop batch =>
          rw [stage] at admits
          cases stop with
          | true => exact .inl admits.2
          | false => exact .inr soon
      | stopped =>
          rw [stage] at admits
          exact .inl admits.2
      | crashed => exact absurd stage found.calm
  obtain ⟨_, _, settled⟩ := draining.settle
  obtain ⟨after, later, reached, empty⟩ := settled.runUntil (Engine.step_settle _)
  exact ⟨after, later, reached.lone, empty, reached.calm⟩

end Processor

end Telemetry
