import Telemetry.Proofs.Queue.FinalFlush

/-! No wake-up is lost. A queue that holds a batch or has been closed is urgent. Whatever makes a
queue urgent gives a permit, and a loop takes the permit only to look at the queue afterwards; so
however many permits fall together, no loop goes to sleep over an urgent queue. -/

namespace Telemetry

variable {α : Type}

namespace HitQueue

/-- There is something to do that must not wait for the end of the flush interval. -/
def Urgent (queue : HitQueue) : Prop :=
  queue.closed = true ∨ queue.config.maxBatchSize ≤ queue.hits.length

/-- Whatever becomes urgent is announced by a permit, and no permit is taken back. -/
structure Announces (before after : HitQueue) : Prop where
  config : after.config = before.config
  permit : before.permit = true → after.permit = true
  urgent : after.Urgent → before.Urgent ∨ after.permit = true
  closed : after.closed = true → before.closed = true ∨ after.permit = true

theorem makeRoom_eq (queue : HitQueue) : ∃ hits, queue.makeRoom.queue = { queue with hits } := by
  unfold makeRoom
  split
  · split
    · exact ⟨_, rfl⟩
    · exact ⟨queue.hits, rfl⟩
  · exact ⟨queue.hits, rfl⟩

theorem announces_enqueue {queue : HitQueue} {queued : QueuedHit} {room : Accepted}
    (taken : queue.enqueue queued = some room) : queue.Announces room.queue := by
  unfold enqueue at taken
  split at taken
  · cases taken
  · cases taken
    obtain ⟨hits, kept⟩ := queue.makeRoom_eq
    simp only [kept]
    refine ⟨rfl, ?_, ?_, .inl⟩
    · intro permitted
      rw [permitted, Bool.true_or]
    · rintro (shut | full)
      · exact .inl (.inl shut)
      · refine .inr ?_
        change (queue.permit || decide _) = true
        rw [decide_eq_true full, Bool.or_true]

theorem announces_drain {queue : HitQueue} (batches : 1 ≤ queue.config.maxBatchSize) :
    queue.Announces queue.drain.2 := by
  refine ⟨rfl, id, ?_, .inl⟩
  rintro (shut | full)
  · exact .inl (.inl shut)
  · change queue.config.maxBatchSize ≤ 0 at full
    omega

theorem announces_close (queue : HitQueue) : queue.Announces queue.close :=
  ⟨rfl, fun _ => rfl, fun _ => .inr rfl, fun _ => .inr rfl⟩

end HitQueue

/-- What a stage has to do with the permit. A loop that will wait finds a permit if the queue is
urgent, one that has found the queue open finds a permit if it is closed by now, and one that waits
has nothing to wait for but the end of the interval. -/
def Stage.Minds (queue : HitQueue) : Stage → Prop
  | .ready | .sending false _ => queue.Urgent → queue.permit = true
  | .flushing false => queue.closed = true → queue.permit = true
  | .waiting _ => ¬queue.Urgent ∧ queue.permit = false
  | _ => True

theorem Stage.Minds.later {stage : Stage} {before after : HitQueue} (minds : stage.Minds before)
    (announces : before.Announces after) (runs : stage.isWaiting = false) : stage.Minds after := by
  have told (known : before.Urgent → before.permit = true) (urgent : after.Urgent) :
      after.permit = true := by
    rcases announces.urgent urgent with old | permitted
    · exact announces.permit (known old)
    · exact permitted
  cases stage with
  | ready => exact told minds
  | waiting deadline => cases runs
  | flushing stop =>
      cases stop with
      | true => trivial
      | false =>
          intro shut
          rcases announces.closed shut with old | permitted
          · exact announces.permit (minds old)
          · exact permitted
  | sending stop batch =>
      cases stop with
      | true => trivial
      | false => exact told minds
  | _ => trivial

namespace HitLoop

variable {loop : HitLoop} {queue : HitQueue} {now ticket : Nat} {answer : Answer}
  {result : HitQueue × HitLoop}

theorem config_wait : (loop.wait queue now ticket).1.config = queue.config := by
  unfold wait
  split <;> rfl

theorem config_finish (stop : Bool) :
    (loop.finish queue now ticket stop).1.config = queue.config := by
  unfold finish
  split
  · rfl
  · exact config_wait

theorem config_step (moved : loop.step queue now ticket answer = some result) :
    result.1.config = queue.config := by
  cases step_moves moved with
  | settle fresh => exact config_wait
  | pass saw empty => exact config_finish _
  | resume handed => exact config_finish _
  | _ => rfl

theorem minds_wait (told : queue.Urgent → queue.permit = true) :
    (loop.wait queue now ticket).2.stage.Minds (loop.wait queue now ticket).1 := by
  unfold wait
  split
  · trivial
  · rename_i none
    exact ⟨fun urgent => none (told urgent), Bool.eq_false_iff.mpr none⟩

theorem minds_finish {stop : Bool}
    (told : stop = false → queue.Urgent → queue.permit = true) :
    (loop.finish queue now ticket stop).2.stage.Minds
      (loop.finish queue now ticket stop).1 := by
  unfold finish
  split
  · trivial
  · rename_i goesOn
    exact minds_wait (told (Bool.eq_false_iff.mpr goesOn))

/-- A loop looks at the flag and takes the hits after it has taken the permit. -/
theorem minds_step (batches : 1 ≤ queue.config.maxBatchSize) (minds : loop.stage.Minds queue)
    (moved : loop.step queue now ticket answer = some result) :
    result.2.stage.Minds result.1 := by
  -- An empty queue can be urgent only because it is closed.
  have drained {stop : Bool} (saw : loop.stage = .flushing stop) (goesOn : stop = false)
      (urgent : queue.drain.2.Urgent) : queue.drain.2.permit = true := by
    rw [saw, goesOn] at minds
    rcases urgent with shut | full
    · exact minds shut
    · change queue.config.maxBatchSize ≤ 0 at full
      omega
  cases step_moves moved with
  | settle fresh =>
      rw [fresh] at minds
      exact minds_wait minds
  | due => trivial
  | look woken =>
      change (Stage.flushing queue.closed).Minds queue
      cases shut : queue.closed with
      | true => trivial
      | false =>
          intro closed
          cases shut.symm.trans closed
  | pass saw empty => exact minds_finish (drained saw)
  | @take stop saw =>
      cases stop with
      | true => trivial
      | false => exact drained saw rfl
  | crash handed panicked => trivial
  | resume handed =>
      apply minds_finish
      intro goesOn
      rw [handed, goesOn] at minds
      exact minds

end HitLoop

namespace Task

structure Attended (config : QueueConfig) (task : Task α) : Prop where
  config : task.queue.config = config
  minds : ∃ loop, task.loops = [loop] ∧ loop.stage.Minds task.queue

theorem Attended.fresh {config : QueueConfig} (batches : 1 ≤ config.maxBatchSize) (owner : α)
    (courier turn : Nat) :
    ({ owner, courier, queue := { config }, loops := [{ turn }] } : Task α).Attended config := by
  refine ⟨rfl, { turn }, rfl, ?_⟩
  rintro (shut | full)
  · cases shut
  · change config.maxBatchSize ≤ 0 at full
    omega

theorem grant_waiting {task : Task α} {loop : HitLoop} (single : task.loops = [loop])
    (waits : loop.stage.isWaiting = true) (permitted : task.queue.permit = true) (ticket : Nat) :
    task.grant ticket =
      { task with queue := { task.queue with permit := false }, loops := [loop.wake ticket] } := by
  have first : HitLoop.firstBy? (·.stage.isWaiting) task.loops = some (0, loop) := by
    simp only [single, HitLoop.firstBy?, waits, Bool.not_true, Bool.false_eq_true, if_false,
      Option.map_none]
  unfold grant
  rw [permitted, first]
  simp only [single, List.set_cons_zero]

theorem grant_idle {task : Task α} {loop : HitLoop} (single : task.loops = [loop])
    (idle : loop.stage.isWaiting = true → task.queue.permit = false) (ticket : Nat) :
    task.grant ticket = task := by
  unfold grant
  split
  · rename_i index found permitted first
    obtain ⟨held, waits⟩ := HitLoop.firstBy_found first
    rw [single] at held
    have same : found = loop := List.mem_singleton.mp (List.mem_of_getElem? held)
    rw [same] at waits
    cases permitted.symm.trans (idle waits)
  · rfl

variable {config : QueueConfig} {task next : Task α}

theorem Attended.withQueue (attended : task.Attended config) {queue : HitQueue}
    (announces : task.queue.Announces queue) (ticket : Nat) :
    (task.withQueue queue ticket).Attended config := by
  obtain ⟨same, loop, single, minds⟩ := attended
  have changed : ({ task with queue } : Task α).loops = [loop] := single
  have config := announces.config.trans same
  unfold Task.withQueue
  by_cases permitted : loop.stage.isWaiting = true ∧ queue.permit = true
  · rw [grant_waiting changed permitted.1 permitted.2]
    exact ⟨config, loop.wake ticket, rfl, trivial⟩
  · rw [grant_idle changed fun waits => Bool.eq_false_iff.mpr fun given => permitted ⟨waits, given⟩]
    refine ⟨config, loop, single, ?_⟩
    cases waits : loop.stage.isWaiting with
    | false => exact minds.later announces waits
    | true =>
        -- Nothing was urgent before, and what is urgent now would have given a permit.
        obtain ⟨stage, turn⟩ := loop
        cases stage with
        | waiting deadline =>
            have none : queue.permit = false :=
              Bool.eq_false_iff.mpr fun given => permitted ⟨rfl, given⟩
            refine ⟨fun urgent => ?_, none⟩
            rcases announces.urgent urgent with old | given
            · exact minds.1 old
            · cases none.symm.trans given
        | _ => cases waits

theorem Change.attended {calm : Prop} {event : QueueEvent α} {place : Nat}
    (batches : 1 ≤ config.maxBatchSize) (change : Change calm event place task next)
    (started : event ≠ .start place) (attended : task.Attended config) :
    next.Attended config := by
  cases change with
  | enqueue ticket taken => exact attended.withQueue (HitQueue.announces_enqueue taken) ticket
  | drain ticket =>
      apply attended.withQueue (HitQueue.announces_drain _) ticket
      rw [attended.config]
      exact batches
  | close ticket asked => exact attended.withQueue task.queue.announces_close ticket
  | @step index now ticket loop answer _ held quiet moved =>
      obtain ⟨same, own, single, minds⟩ := attended
      obtain ⟨result, stepped, rfl⟩ := Option.map_eq_some_iff.mp moved
      rw [single] at held
      obtain ⟨inside, rfl⟩ := List.getElem?_eq_some_iff.mp held
      have first : index = 0 := Nat.lt_one_iff.mp inside
      subst first
      refine ⟨(HitLoop.config_step stepped).trans same, result.2, ?_, ?_⟩
      · simp only [single, List.set_cons_zero]
      · apply HitLoop.minds_step _ minds stepped
        rw [same]
        exact batches
  | start turn asked => exact absurd asked started
  | adjust asked => exact ⟨attended.config, attended.minds⟩

end Task

namespace HitLoop

theorem step_goesOn {loop : HitLoop} {now : Nat} (goesOn : loop.stage.goesOn now = true)
    (queue : HitQueue) (ticket : Nat) (answer : Answer) :
    ∃ result, loop.step queue now ticket answer = some result := by
  obtain ⟨stage, turn⟩ := loop
  cases stage with
  | ready => exact ⟨_, rfl⟩
  | waiting deadline => exact ⟨_, if_pos (of_decide_eq_true goesOn)⟩
  | awake => exact ⟨_, rfl⟩
  | flushing stop =>
      simp only [step]
      split
      · exact ⟨_, rfl⟩
      · exact ⟨_, rfl⟩
  | sending stop batch => cases answer <;> exact ⟨_, rfl⟩
  | stopped => cases goesOn
  | crashed => cases goesOn

/-- One step takes all hits or none, so an urgent queue stays urgent until it is empty. -/
theorem left_step {loop : HitLoop} {queue : HitQueue} {now ticket : Nat} {answer : Answer}
    {result : HitQueue × HitLoop} (left : queue.hits = [] ∨ queue.Urgent)
    (moved : loop.step queue now ticket answer = some result) :
    result.1.hits = [] ∨ result.1.Urgent := by
  have kept {after : HitQueue} (config : after.config = queue.config)
      (closed : after.closed = queue.closed) (hits : after.hits = queue.hits) :
      after.hits = [] ∨ after.Urgent := by
    unfold HitQueue.Urgent
    rw [config, closed, hits]
    exact left
  cases step_moves moved with
  | settle fresh => exact kept config_wait closed_wait (hits_wait loop queue now ticket)
  | due => exact left
  | look woken => exact left
  | pass saw empty => exact .inl (hits_finish loop queue.drain.2 now ticket _)
  | take saw => exact .inl rfl
  | crash handed panicked => exact left
  | resume handed =>
      exact kept (config_finish _) (closed_finish _) (hits_finish loop queue now ticket _)

theorem firstBy_none {test : HitLoop → Bool} {loops : List HitLoop}
    (nobody : firstBy? test loops = none) : ∀ loop ∈ loops, test loop = false := by
  induction loops with
  | nil => exact List.forall_mem_nil _
  | cons loop rest ih =>
      unfold firstBy? at nobody
      dsimp only at nobody
      split at nobody
      · rename_i fails
        rw [Option.map_eq_none_iff] at nobody
        exact List.forall_mem_cons.mpr ⟨by simpa using fails, ih nobody⟩
      · split at nobody
        · split at nobody
          · cases nobody
          · cases nobody
        · cases nobody

end HitLoop

namespace Engine

/-- The loop that goes on next is there and has something to do, and without one all loops rest. -/
theorem nextLoop_spec (now : Nat) (tasks : List (Task α)) :
    (nextLoop? now tasks = none →
        ∀ task ∈ tasks, ∀ loop ∈ task.loops, loop.stage.goesOn now = false) ∧
      ∀ index place loop, nextLoop? now tasks = some (index, place, loop) →
        ∃ task, tasks[index]? = some task ∧ task.loops[place]? = some loop ∧
          loop.stage.goesOn now = true := by
  induction tasks with
  | nil =>
      refine ⟨fun _ => List.forall_mem_nil _, ?_⟩
      intro index place loop next
      cases next
  | cons task rest ih =>
      obtain ⟨rests, goes⟩ := ih
      have later {index place : Nat} {loop : HitLoop}
          (next : (nextLoop? now rest).map (Prod.map (· + 1) id) = some (index, place, loop)) :
          ∃ own, (task :: rest)[index]? = some own ∧ own.loops[place]? = some loop ∧
            loop.stage.goesOn now = true := by
        obtain ⟨⟨before, inner, found⟩, earlier, same⟩ := Option.map_eq_some_iff.mp next
        simp only [Prod.map_apply, id_eq, Prod.mk.injEq] at same
        obtain ⟨rfl, rfl, rfl⟩ := same
        simpa using goes _ _ _ earlier
      have here {place : Nat} {loop : HitLoop}
          (first : HitLoop.firstBy? (·.stage.goesOn now) task.loops = some (place, loop)) :
          ∃ own, (task :: rest)[0]? = some own ∧ own.loops[place]? = some loop ∧
            loop.stage.goesOn now = true :=
        ⟨task, rfl, HitLoop.firstBy_found first⟩
      unfold nextLoop?
      dsimp only
      cases own : HitLoop.firstBy? (·.stage.goesOn now) task.loops with
      | none =>
          refine ⟨fun none => ?_, fun index place loop next => later next⟩
          exact List.forall_mem_cons.mpr
            ⟨HitLoop.firstBy_none own, rests (Option.map_eq_none_iff.mp none)⟩
      | some found =>
          generalize others : (nextLoop? now rest).map _ = following
          cases following with
          | none =>
              refine ⟨?_, ?_⟩
              · intro none
                cases none
              · intro index place loop next
                cases next
                exact here own
          | some other =>
              dsimp only
              refine ⟨?_, ?_⟩
              · intro none
                split at none <;> cases none
              · intro index place loop next
                split at next
                · cases next
                  exact later others
                · cases next
                  exact here own

theorem still_of_rests {engine : Engine α} (rests : engine.step = none) :
    ∀ task ∈ engine.tasks, ∀ loop ∈ task.loops, loop.stage.goesOn engine.now = false := by
  obtain ⟨still, goes⟩ := nextLoop_spec engine.now engine.tasks
  unfold step at rests
  cases next : nextLoop? engine.now engine.tasks with
  | none => exact still next
  | some found =>
      obtain ⟨index, place, loop⟩ := found
      obtain ⟨task, here, held, goesOn⟩ := goes index place loop next
      obtain ⟨result, stepped⟩ := HitLoop.step_goesOn goesOn task.queue engine.ticket
        (task.deliver loop index engine.outbox).1
      rw [next] at rests
      simp only [move, here, held, Task.step, stepped, Option.map_some, reduceCtorEq] at rests

theorem step_settle (engine : Engine α) : engine.settle.step = none := by
  fun_induction settle engine with
  | case1 engine rests => exact rests
  | case2 engine next moved ih => exact ih

/-- One loop looks after the only queue, which is urgent or empty, and nobody is told of panics. -/
structure Tended (config : QueueConfig) (engine : Engine α) (task : Task α) : Prop where
  alone : engine.tasks = [task]
  unheard : engine.witness = none
  attended : task.Attended config
  orderly : task.Orderly
  left : task.queue.hits = [] ∨ task.queue.Urgent

variable {config : QueueConfig} {engine next : Engine α} {task : Task α}

theorem Tended.move (tended : engine.Tended config task) (batches : 1 ≤ config.maxBatchSize)
    {index place : Nat} (moved : engine.move index place = some next) :
    ∃ after, next.Tended config after ∧ after.queue.closed = task.queue.closed := by
  obtain ⟨own, loop, stepped, found, held, step, reached⟩ := move_cases moved
  rw [tended.alone] at found
  have first : index = 0 := Nat.lt_one_iff.mp (List.getElem?_eq_some_iff.mp found).1
  subst first
  cases found
  rw [report_unreported (by exact .inr tended.unheard)] at reached
  have change : Task.Change False (.go 0 place) 0 task stepped := .step held False.elim step
  have starts : QueueEvent.go 0 place ≠ (.start 0 : QueueEvent α) := by
    intro same
    cases same
  obtain ⟨result, turned, same⟩ := Option.map_eq_some_iff.mp step
  have queue : stepped.queue = result.1 := by rw [← same]
  refine ⟨stepped, ⟨?_, ?_, ?_, ?_, ?_⟩, ?_⟩
  · rw [reached, tended.alone, List.set_cons_zero]
  · rw [reached]
    exact tended.unheard
  · exact change.attended batches starts tended.attended
  · exact change.orderly tended.orderly
  · rw [queue]
    exact HitLoop.left_step tended.left turned
  · rw [queue]
    exact HitLoop.closed_step turned

theorem Tended.settle (tended : engine.Tended config task) (batches : 1 ≤ config.maxBatchSize) :
    ∃ last, engine.settle.Tended config last ∧ last.queue.closed = task.queue.closed := by
  fun_induction Engine.settle engine generalizing task with
  | case1 engine rests => exact ⟨task, tended, rfl⟩
  | case2 engine next moved ih =>
      unfold Engine.step at moved
      split at moved
      · cases moved
      · obtain ⟨after, reached, closed⟩ := tended.move batches moved
        obtain ⟨last, settled, same⟩ := ih reached
        exact ⟨last, settled, same.trans closed⟩

/-- A loop that rests has emptied the queue, unless it was ended by a panic. -/
theorem Tended.rests (tended : engine.Tended config task) (rests : engine.step = none) :
    ∃ loop, task.loops = [loop] ∧ (loop.stage = .crashed ∨
      task.queue.hits = [] ∧ (task.queue.closed = true → loop.stage = .stopped)) := by
  obtain ⟨loop, single, minds⟩ := tended.attended.minds
  refine ⟨loop, single, ?_⟩
  have still : loop.stage.goesOn engine.now = false := by
    apply still_of_rests rests task
    · rw [tended.alone]
      exact List.mem_singleton_self task
    · rw [single]
      exact List.mem_singleton_self loop
  have found := tended.orderly loop (by rw [single]; exact List.mem_singleton_self loop)
  obtain ⟨stage, turn⟩ := loop
  cases stage with
  | waiting deadline =>
      refine .inr ⟨tended.left.resolve_right minds.1, fun shut => ?_⟩
      exact absurd (.inl shut) minds.1
  | stopped => exact .inr ⟨found.2, fun _ => rfl⟩
  | crashed => exact .inl rfl
  | _ => cases still

end Engine

/-- A loop waits or is about to, or its wait has been ended and it has not gone on yet. -/
def Stage.isParked : Stage → Bool
  | .ready | .waiting _ | .awake => true
  | _ => false

namespace Processor

variable {config : QueueConfig} {courier : Courier} {world : World}

theorem witness_run (past : List ProcessorEvent) :
    (run config courier world past).witness = none := by
  induction past using List.reverseRecOn with
  | nil => rfl
  | append_singleton past next ih =>
      rw [run_snoc, Engine.witness_after, ih]
      intro witness same
      cases next <;> cases same

theorem attended (batches : 1 ≤ config.maxBatchSize) (courier : Courier) (world : World)
    (past : List ProcessorEvent) :
    ∃ task, (run config courier world past).tasks = [task] ∧ task.Attended config ∧ task.Orderly ∧
      (task.queue.closed = true ↔ .shutdown ∈ past) := by
  induction past using List.reverseRecOn with
  | nil =>
      refine ⟨{ owner := (), queue := { config }, loops := [{ turn := 0 }] }, rfl, ?_, ?_, by simp⟩
      · exact .fresh batches () 0 0
      · intro loop member
        rw [List.mem_singleton.mp member]
        trivial
  | append_singleton past next ih =>
      obtain ⟨task, alone, held, orderly, closed⟩ := ih
      obtain ⟨loop, single, minds⟩ := held.minds
      obtain ⟨after, resumed, tasks, still, course⟩ := tasks_snoc alone single next
      refine ⟨after, tasks, ?_, ?_, closed_snoc alone tasks course closed⟩
      · exact course.preserves (Task.Attended config)
          (fun change => change.attended batches (event_ne_start next)) held
      · exact course.preserves Task.Orderly (fun change => change.orderly) orderly

/-- Callers and the loop may come in any order, and the courier may fail as it likes. A loop never
waits over a full batch or a shutdown without a permit that is there or has just woken it. Left
alone it goes on until it has emptied the queue, and after a shutdown until it has stopped, and the
clock stands still meanwhile. -/
theorem wakeup_pending (config : QueueConfig) (batches : 1 ≤ config.maxBatchSize)
    (courier : Courier) (world : World) (past : List ProcessorEvent) :
    ∃ task loop, (run config courier world past).tasks = [task] ∧ task.loops = [loop] ∧
      (.shutdown ∈ past ∨ config.maxBatchSize ≤ task.queue.hits.length →
        (loop.stage.isParked = true → task.queue.permit = true ∨ loop.stage = .awake) ∧
        (run config courier world past).settle.now = (run config courier world past).now ∧
        ∃ last rested, (run config courier world past).settle.tasks = [last] ∧
          last.loops = [rested] ∧
          (rested.stage = .crashed ∨
            last.queue.hits = [] ∧ (.shutdown ∈ past → rested.stage = .stopped))) := by
  obtain ⟨task, alone, held, orderly, closed⟩ := attended batches courier world past
  obtain ⟨loop, single, minds⟩ := held.minds
  have urgent (pressing : .shutdown ∈ past ∨ config.maxBatchSize ≤ task.queue.hits.length) :
      task.queue.Urgent := by
    unfold HitQueue.Urgent
    rw [closed, held.config]
    exact pressing
  refine ⟨task, loop, alone, single, fun pressing => ⟨?_, Engine.now_settle _, ?_⟩⟩
  · intro parked
    obtain ⟨stage, turn⟩ := loop
    cases stage with
    | ready => exact .inl (minds (urgent pressing))
    | waiting deadline => exact absurd (urgent pressing) minds.1
    | awake => exact .inr rfl
    | _ => cases parked
  · have tended : (run config courier world past).Tended config task :=
      ⟨alone, witness_run past, held, orderly, .inr (urgent pressing)⟩
    obtain ⟨last, settled, same⟩ := tended.settle batches
    obtain ⟨rested, rests, ending⟩ := settled.rests (Engine.step_settle _)
    refine ⟨last, rested, settled.alone, rests, ending.imp_right ?_⟩
    rw [same, closed]
    exact id

/-- The second hit wakes the loop; the permits of the third hit and the shutdown fall together. -/
def collapsedPermits : List ProcessorEvent :=
  [.step, .enqueue (.ofScreen "one"), .enqueue (.ofScreen "two"), .enqueue (.ofScreen "three"),
    .shutdown]

theorem wakeup_pending_collapsed :
    1 ≤ ({ maxBatchSize := 2 } : QueueConfig).maxBatchSize ∧
      ∃ last rested,
        (run { maxBatchSize := 2 } (.scripted []) {} collapsedPermits).settle.tasks = [last] ∧
        last.loops = [rested] ∧ last.queue.hits = [] ∧ rested.stage = .stopped := by
  have batches : 1 ≤ ({ maxBatchSize := 2 } : QueueConfig).maxBatchSize := by decide
  have shut : .shutdown ∈ collapsedPermits := by simp [collapsedPermits]
  obtain ⟨task, loop, _, _, woken⟩ :=
    wakeup_pending { maxBatchSize := 2 } batches (.scripted []) {} collapsedPermits
  obtain ⟨_, _, last, rested, settled, rests, ending⟩ := woken (.inl shut)
  have stages : (run { maxBatchSize := 2 } (.scripted []) {} collapsedPermits).settle.tasks.map
      (·.loops.map (·.stage)) = [[.stopped]] := by decide +kernel
  rw [settled, List.map_singleton, rests] at stages
  have stopped : rested.stage = .stopped := by simpa using stages
  have calm : rested.stage ≠ .crashed := by
    rw [stopped]
    intro same
    cases same
  exact ⟨batches, last, rested, settled, rests, (ending.resolve_left calm).1, stopped⟩

end Processor

end Telemetry
