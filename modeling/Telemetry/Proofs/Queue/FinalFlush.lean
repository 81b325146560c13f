import Mathlib.Data.List.Induction
import Telemetry.Proofs.Queue.Intake
import Telemetry.Proofs.Queue.Seal

/-! One queue with one loop. Callers put hits into the queue, flush it and shut it down at any
point between two steps of the loop. Whatever came in before the shutdown is handed over once or
has left a full queue, and when the loop has stopped nothing is left behind. -/

namespace Telemetry

open Journal

variable {α : Type}

theorem HitQueue.dropped_enqueue {queue : HitQueue} {queued oldest : QueuedHit} {room : Accepted}
    (taken : queue.enqueue queued = some room) (lost : room.dropped = some oldest) :
    queue.capacity ≤ queue.hits.length ∧ queue.hits.head? = some oldest := by
  unfold enqueue at taken
  split at taken
  · cases taken
  · cases taken
    unfold makeRoom at lost
    split at lost
    · rename_i first others found
      split at lost
      · rename_i full
        refine ⟨full, ?_⟩
        rw [found]
        exact lost
      · cases lost
    · cases lost

namespace Engine

theorem task_close {engine : Engine α} {index : Nat} {task : Task α}
    (found : engine.tasks[index]? = some task) :
    (engine.close index).tasks[index]? =
      some (task.withQueue task.queue.close engine.ticket) := by
  simp only [close, queue?, found, Option.map_some, setQueue]
  rw [task_modify, if_pos rfl, found]
  rfl

end Engine

/-- What happens to a queue with one loop: a call, a step of the loop, or the passing of time. -/
inductive ProcessorEvent where
  | enqueue (hit : Hit)
  | flush
  | shutdown
  | step
  | pass (milliseconds : Nat)
  deriving DecidableEq

namespace Processor

def event : ProcessorEvent → QueueEvent Unit
  | .enqueue hit => .enqueue 0 hit
  | .flush => .flush 0
  | .shutdown => .close 0
  | .step => .go 0 0
  | .pass milliseconds => .tick milliseconds

theorem enqueue_of_event {next : ProcessorEvent} {index : Nat} {hit : Hit}
    (same : event next = .enqueue index hit) : next = .enqueue hit := by
  cases next <;> cases same
  rfl

theorem event_ne_start (next : ProcessorEvent) : event next ≠ .start 0 := by
  intro same
  cases next <;> cases same

theorem event_ne_supply (next : ProcessorEvent) (courier : Courier) :
    event next ≠ .supply courier := by
  intro same
  cases next <;> cases same

def admitted : List ProcessorEvent → List Hit
  | [] => []
  | .enqueue hit :: rest => hit :: admitted rest
  | .shutdown :: _ => []
  | .flush :: rest | .step :: rest | .pass _ :: rest => admitted rest

theorem admitted_snoc (past : List ProcessorEvent) (next : ProcessorEvent) :
    admitted (past ++ [next]) =
      admitted past ++ if .shutdown ∈ past then [] else admitted [next] := by
  induction past with
  | nil => rfl
  | cons first rest ih =>
      cases first with
      | enqueue hit => simp only [List.cons_append, admitted, ih, List.mem_cons, reduceCtorEq,
          false_or]
      | shutdown => simp only [List.cons_append, admitted, List.mem_cons, true_or, if_pos,
          List.append_nil]
      | _ => simp only [List.cons_append, admitted, ih, List.mem_cons, reduceCtorEq, false_or]

def launched (config : QueueConfig) (courier : Courier) (world : World) : Engine Unit :=
  (Engine.add { outbox := { couriers := [courier], world } } () 0 config).start 0

def run (config : QueueConfig) (courier : Courier) (world : World)
    (events : List ProcessorEvent) : Engine Unit :=
  (launched config courier world).course (events.map event)

variable {config : QueueConfig} {courier : Courier} {world : World} {past : List ProcessorEvent}

theorem run_append (past later : List ProcessorEvent) :
    run config courier world (past ++ later) =
      (run config courier world past).course (later.map event) := by
  simp only [run, List.map_append, Engine.course_append]

theorem run_snoc (past : List ProcessorEvent) (next : ProcessorEvent) :
    run config courier world (past ++ [next]) =
      (run config courier world past).after (event next) := by
  rw [run_append]
  rfl

/-- At some point of the past the queue was full, the hit was the oldest one, and another one
came. -/
def Overflowed (config : QueueConfig) (courier : Courier) (world : World)
    (past : List ProcessorEvent) (oldest : QueuedHit) : Prop :=
  ∃ before hit later task, past = before ++ .enqueue hit :: later ∧
    (run config courier world before).tasks = [task] ∧
    task.queue.capacity ≤ task.queue.hits.length ∧ task.queue.hits.head? = some oldest

theorem Overflowed.later {oldest : QueuedHit} (lost : Overflowed config courier world past oldest)
    (next : ProcessorEvent) : Overflowed config courier world (past ++ [next]) oldest := by
  obtain ⟨before, hit, later, task, rfl, alone, full, first⟩ := lost
  exact ⟨before, hit, later ++ [next], task, by simp, alone, full, first⟩

/-- What holds of a processor after the events of the past. -/
structure Steady (config : QueueConfig) (courier : Courier) (world : World)
    (past : List ProcessorEvent) (task : Task Unit) (loop : HitLoop) : Prop where
  alone : (run config courier world past).tasks = [task]
  single : task.loops = [loop]
  admits : loop.stage.Admits task.queue
  calm : loop.stage ≠ .crashed
  closed : task.queue.closed = true ↔ .shutdown ∈ past
  returns : (run config courier world past).outbox.Returns
  balanced : (run config courier world past).Balanced
  numbered : (run config courier world past).Numbered
  taken : (accepted 0 (run config courier world past).outbox.journal).map (·.hit) = admitted past
  lost : ∀ hit ∈ dropped 0 (run config courier world past).outbox.journal,
    Overflowed config courier world past hit

theorem steady_launched (returns : courier.Returns) :
    ∃ task loop, Steady config courier world [] task loop := by
  refine ⟨{ owner := (), queue := { config }, loops := [{ turn := 0 }] }, { turn := 0 }, ?_⟩
  refine
    { alone := rfl
      single := rfl
      admits := trivial
      calm := Stage.noConfusion
      closed := by simp
      returns := ?_
      balanced := ?_
      numbered := ?_
      taken := rfl
      lost := List.forall_mem_nil _ }
  · intro other member
    exact List.mem_singleton.mp member ▸ returns
  · have empty : ({ outbox := { couriers := [courier], world } } : Engine Unit).Balanced := by
      intro queue hit
      rfl
    exact (empty.add () 0 config).start 0
  · exact ⟨.nil, List.forall_mem_nil _⟩

variable {task : Task Unit} {loop : HitLoop}

theorem Steady.enqueue_iff (steady : Steady config courier world past task loop) (hit : Hit) :
    ((run config courier world past).enqueue 0 hit).1 = .ok () ↔ .shutdown ∉ past := by
  have here : (run config courier world past).tasks[0]? = some task := by rw [steady.alone]; rfl
  rw [← steady.closed]
  rcases (run config courier world past).enqueue_cases 0 hit with
    ⟨refused, closed⟩ | ⟨held, room, found, opened, taken, result⟩
  · rw [refused]
    simp only [closed task here, not_true_eq_false, reduceCtorEq]
  · rw [result]
    rw [Option.some.inj (found.symm.trans here)] at opened
    simp only [opened, reduceCtorEq, not_false_eq_true]

theorem Steady.accounts (steady : Steady config courier world past task loop)
    (next : ProcessorEvent) :
    (accepted 0 (run config courier world (past ++ [next])).outbox.journal).map (·.hit) =
        admitted (past ++ [next]) ∧
      ∀ hit ∈ dropped 0 (run config courier world (past ++ [next])).outbox.journal,
        Overflowed config courier world (past ++ [next]) hit := by
  have here : (run config courier world past).tasks[0]? = some task := by rw [steady.alone]; rfl
  have quiet (other : ∀ hit, next ≠ .enqueue hit) (none : admitted [next] = []) :
      (accepted 0 (run config courier world (past ++ [next])).outbox.journal).map (·.hit) =
          admitted (past ++ [next]) ∧
        ∀ hit ∈ dropped 0 (run config courier world (past ++ [next])).outbox.journal,
          Overflowed config courier world (past ++ [next]) hit := by
    obtain ⟨news, written, came, went⟩ := Engine.silent_after (.inl steady.returns)
      fun _ hit same => other hit (enqueue_of_event same)
    rw [run_snoc, written, accepted_append, dropped_append, admitted_snoc, none, ite_self,
      List.append_nil]
    simp only [accepted, dropped, came, went, about_nil, List.append_nil]
    exact ⟨steady.taken, fun hit member => (steady.lost hit member).later next⟩
  cases next with
  | enqueue hit =>
      rw [run_snoc]
      change (accepted 0 ((run config courier world past).enqueue 0 hit).2.outbox.journal).map _ =
          _ ∧ ∀ other ∈ dropped 0 ((run config courier world past).enqueue 0 hit).2.outbox.journal, _
      rw [admitted_snoc]
      rcases (run config courier world past).enqueue_cases 0 hit with
        ⟨refused, closed⟩ | ⟨held, room, found, opened, taken, result⟩
      · have shut := steady.closed.mp (closed task here)
        rw [refused, if_pos shut, List.append_nil]
        exact ⟨steady.taken, fun other member => (steady.lost other member).later _⟩
      · rw [Option.some.inj (found.symm.trans here)] at opened taken
        have unshut : .shutdown ∉ past := by
          rw [← steady.closed, opened]
          exact Bool.false_ne_true
        obtain ⟨came, went, _⟩ := entries_ofArrival 0 room.dropped
          ((run config courier world past).stamped hit)
        rw [result, if_neg unshut]
        simp only [Outbox.note, Outbox.stamp, accepted_append, dropped_append, List.map_append]
        simp only [accepted, dropped, came, went, about_own]
        refine ⟨congrArg (· ++ [hit]) steady.taken, ?_⟩
        intro other member
        rcases List.mem_append.mp member with old | new
        · exact (steady.lost other old).later _
        · have gone := Option.mem_toList.mp new
          obtain ⟨full, first⟩ := HitQueue.dropped_enqueue taken gone
          exact ⟨past, hit, [], task, rfl, steady.alone, full, first⟩
  | flush => exact quiet (fun _ => ProcessorEvent.noConfusion) rfl
  | shutdown => exact quiet (fun _ => ProcessorEvent.noConfusion) rfl
  | step => exact quiet (fun _ => ProcessorEvent.noConfusion) rfl
  | pass milliseconds => exact quiet (fun _ => ProcessorEvent.noConfusion) rfl

theorem tasks_snoc (alone : (run config courier world past).tasks = [task])
    (single : task.loops = [loop]) (next : ProcessorEvent) :
    ∃ after resumed, (run config courier world (past ++ [next])).tasks = [after] ∧
      after.loops = [resumed] ∧
      Task.Course (run config courier world past).outbox.Returns (event next) 0 task after := by
  have here : (run config courier world past).tasks[0]? = some task := by rw [alone]; rfl
  have stays : (run config courier world past).Continues
      (run config courier world past).outbox.Returns (event next)
      (run config courier world (past ++ [next])) := by
    rw [run_snoc]
    rcases (run config courier world past).after_cases (event next) with ⟨_, _, _, same⟩ | continues
    · cases next <;> cases same
    · exact continues
  obtain ⟨after, there, course⟩ := stays.course 0 task here
  have one : (run config courier world (past ++ [next])).tasks.length = 1 := by
    rw [stays.length, alone]
    rfl
  obtain ⟨only, tasks⟩ := List.length_eq_one_iff.mp one
  rw [tasks] at there
  cases there
  have loops : after.loops.length = 1 := by
    refine course.preserves (·.loops.length = 1) (fun change kept => ?_)
      (congrArg List.length single)
    rw [change.length (event_ne_start next)]
    exact kept
  obtain ⟨resumed, still⟩ := List.length_eq_one_iff.mp loops
  exact ⟨after, resumed, tasks, still, course⟩

theorem closed_snoc {calm : Prop} {after : Task Unit}
    (alone : (run config courier world past).tasks = [task]) {next : ProcessorEvent}
    (tasks : (run config courier world (past ++ [next])).tasks = [after])
    (course : Task.Course calm (event next) 0 task after)
    (closed : task.queue.closed = true ↔ .shutdown ∈ past) :
    after.queue.closed = true ↔ .shutdown ∈ past ++ [next] := by
  by_cases shuts : next = .shutdown
  · subst shuts
    have here : (run config courier world past).tasks[0]? = some task := by rw [alone]; rfl
    have there := Engine.task_close here
    have reached : run config courier world (past ++ [.shutdown]) =
        (run config courier world past).close 0 := run_snoc past .shutdown
    rw [← reached, tasks] at there
    cases there
    simp [(task.queue_withQueue _ _).1, HitQueue.close]
  · have same : after.queue.closed = task.queue.closed := by
      refine course.preserves (·.queue.closed = task.queue.closed) (fun change kept => ?_) rfl
      rw [change.closed (by cases next <;> simp_all [event])]
      exact kept
    rw [same, closed]
    simp [Ne.symm shuts]

theorem Steady.next (steady : Steady config courier world past task loop) (next : ProcessorEvent) :
    ∃ after resumed, Steady config courier world (past ++ [next]) after resumed ∧
      (loop.stage = .stopped → resumed = loop) := by
  obtain ⟨after, resumed, alone, single, course⟩ := tasks_snoc steady.alone steady.single next
  obtain ⟨taken, lost⟩ := steady.accounts next
  have orderly : after.Orderly := by
    apply course.preserves Task.Orderly (fun change => change.orderly)
    intro other member
    rw [steady.single] at member
    exact List.mem_singleton.mp member ▸ steady.admits
  have calm : after.Calm := by
    apply course.preserves Task.Calm (fun change => change.calm_of steady.returns)
    intro other member
    rw [steady.single] at member
    exact List.mem_singleton.mp member ▸ steady.calm
  have closed := closed_snoc steady.alone alone course steady.closed
  have member : resumed ∈ after.loops := by rw [single]; exact List.mem_singleton_self _
  refine ⟨after, resumed, ?_, ?_⟩
  · exact
    { alone
      single
      admits := orderly resumed member
      calm := calm resumed member
      closed
      returns := by
        rw [run_snoc]
        exact Engine.returns_after steady.returns (event next)
          fun other same => absurd same (event_ne_supply next other)
      balanced := by
        rw [run_snoc]
        exact steady.balanced.after _
      numbered := by
        rw [run_snoc]
        exact steady.numbered.after _
      taken
      lost }
  · intro stopped
    have kept : after.loops[0]? = some loop := by
      refine course.preserves (·.loops[0]? = some loop)
        (fun change found => change.stopped found stopped) ?_
      rw [steady.single]
      rfl
    rw [single] at kept
    exact Option.some.inj kept

theorem steady (config : QueueConfig) (returns : courier.Returns) (past : List ProcessorEvent) :
    ∃ task loop, Steady config courier world past task loop := by
  induction past using List.reverseRecOn with
  | nil => exact steady_launched returns
  | append_singleton past next ih =>
      obtain ⟨task, loop, held⟩ := ih
      obtain ⟨after, resumed, reached, _⟩ := held.next next
      exact ⟨after, resumed, reached⟩

theorem Steady.stopped (steady : Steady config courier world past task loop)
    (stopped : loop.stage = .stopped) (later : List ProcessorEvent) :
    ∃ last, Steady config courier world (past ++ later) last loop := by
  induction later using List.reverseRecOn with
  | nil =>
      rw [List.append_nil]
      exact ⟨task, steady⟩
  | append_singleton later next ih =>
      obtain ⟨last, held⟩ := ih
      obtain ⟨after, resumed, reached, same⟩ := held.next next
      rw [same stopped, List.append_assoc] at reached
      exact ⟨after, reached⟩

/-- A batch that could not be delivered leaves a loop that goes on, unless it is the last one. -/
theorem Steady.resumes (steady : Steady config courier world past task loop)
    {batch : List QueuedHit}
    (handed : loop.stage = .sending false batch) :
    ∃ after resumed, (run config courier world (past ++ [.step])).tasks = [after] ∧
      after.loops = [resumed] ∧ resumed.stage.isAlive = true := by
  have here : (run config courier world past).tasks[0]? = some task := by rw [steady.alone]; rfl
  have quiet := (task.returns_deliver loop 0 steady.returns).1
  obtain ⟨⟨queue, resumed⟩, stepped, alive⟩ := HitLoop.alive_resumed task.queue
    (run config courier world past).now (run config courier world past).ticket handed quiet
  refine ⟨{ task with queue, loops := [resumed] }, resumed, ?_, rfl, alive⟩
  rw [run_snoc]
  change (((run config courier world past).move 0 0).getD _).tasks = _
  have held : task.loops[0]? = some loop := by rw [steady.single]; rfl
  simp only [Engine.move, here, held, Task.step, stepped, Option.map_some, Option.getD_some]
  rw [Engine.report_calm quiet]
  simp only [steady.alone, steady.single, List.set_cons_zero]

def Settled (config : QueueConfig) (courier : Courier) (world : World) (past : List ProcessorEvent)
    (hit : QueuedHit) : Prop :=
  let journal := (run config courier world past).outbox.journal
  (answered 0 journal).flatten.count hit = 1 ∧ hit ∉ dropped 0 journal ∨
    hit ∉ (answered 0 journal).flatten ∧ (dropped 0 journal).count hit = 1 ∧
      Overflowed config courier world past hit

theorem Steady.settled (steady : Steady config courier world past task loop)
    (stopped : loop.stage = .stopped) (hit : QueuedHit)
    (came : hit ∈ accepted 0 (run config courier world past).outbox.journal) :
    Settled config courier world past hit := by
  have shut := steady.admits
  rw [stopped] at shut
  have nothing : (run config courier world past).holding 0 hit = 0 := by
    simp only [Engine.holding, steady.alone, List.getElem?_cons_zero, Option.elim_some,
      Task.holding, steady.single, total_cons, total_nil, shut.2, HitLoop.carried, stopped]
    rfl
  have sum := steady.balanced 0 hit
  have once := steady.numbered.count_le_one 0 hit
  have some := List.count_pos_iff.mpr came
  rw [nothing] at sum
  rcases Nat.eq_zero_or_pos
      ((dropped 0 (run config courier world past).outbox.journal).count hit) with kept | gone
  · refine .inl ⟨by omega, List.count_eq_zero.mp kept⟩
  · refine .inr ⟨List.count_eq_zero.mp (by omega), by omega, ?_⟩
    exact steady.lost hit (List.count_pos_iff.mp gone)

/-- Callers and the loop may come in any order. Hits come in until the first shutdown and not
after it, a failed delivery never ends the loop, and once the loop has stopped the queue is empty
for ever and all that came in is settled. -/
theorem final_flush_complete (config : QueueConfig) {courier : Courier}
    (returns : courier.Returns) (world : World) (past : List ProcessorEvent) :
    ∃ task loop, (run config courier world past).tasks = [task] ∧ task.loops = [loop] ∧
      (∀ hit, ((run config courier world past).enqueue 0 hit).1 = .ok () ↔ .shutdown ∉ past) ∧
      (accepted 0 (run config courier world past).outbox.journal).map (·.hit) = admitted past ∧
      loop.stage ≠ .crashed ∧ (loop.stage = .stopped → .shutdown ∈ past) ∧
      (∀ batch, loop.stage = .sending false batch →
        ∃ after resumed, (run config courier world (past ++ [.step])).tasks = [after] ∧
          after.loops = [resumed] ∧ resumed.stage.isAlive = true) ∧
      (loop.stage = .stopped → ∀ later,
        ∃ last, (run config courier world (past ++ later)).tasks = [last] ∧ last.loops = [loop] ∧
          last.queue.hits = [] ∧
          ∀ hit ∈ accepted 0 (run config courier world (past ++ later)).outbox.journal,
            Settled config courier world (past ++ later) hit) := by
  obtain ⟨task, loop, held⟩ := steady config returns past
  refine ⟨task, loop, held.alone, held.single, held.enqueue_iff, held.taken, held.calm, ?_, ?_, ?_⟩
  · intro stopped
    have shut := held.admits
    rw [stopped] at shut
    exact held.closed.mp shut.1
  · intro batch handed
    exact held.resumes handed
  · intro stopped later
    obtain ⟨last, reached⟩ := held.stopped stopped later
    have shut := reached.admits
    rw [stopped] at shut
    exact ⟨last, reached.alone, reached.single, shut.2, reached.settled stopped⟩

/-- A batch fails, and a hit that came in meanwhile is left to the final flush. -/
def failedBatch : List ProcessorEvent :=
  [.enqueue (.ofScreen "first"), .step, .step, .step, .enqueue (.ofScreen "last"), .step,
    .shutdown, .step, .step, .step]

theorem final_flush_after_failure :
    (Courier.scripted [.failed .closed]).Returns ∧
      ∀ hit ∈ accepted 0 (run {} (.scripted [.failed .closed]) {} failedBatch).outbox.journal,
        Settled {} (.scripted [.failed .closed]) {} failedBatch hit := by
  have returns : (Courier.scripted [.failed .closed]).Returns := by
    apply Courier.returns_scripted
    intro answer member
    rw [List.mem_singleton.mp member]
    intro message same
    cases same
  refine ⟨returns, ?_⟩
  obtain ⟨task, loop, alone, single, _, _, _, _, _, finished⟩ :=
    final_flush_complete {} returns {} failedBatch
  have stages : (run {} (.scripted [.failed .closed]) {} failedBatch).tasks.map
      (·.loops.map (·.stage)) = [[.stopped]] := rfl
  rw [alone, List.map_singleton, single] at stages
  have stopped : loop.stage = .stopped := by simpa using stages
  obtain ⟨last, _, _, _, settled⟩ := finished stopped []
  rw [List.append_nil] at settled
  exact settled

end Processor

end Telemetry
