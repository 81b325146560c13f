import Mathlib.Logic.Relation
import Telemetry.Proofs.Queue.Event
import Telemetry.Proofs.Retry.History

/-! What becomes of one queue and its loops when something happens to all queues. Every event
changes a task by a few changes of the kinds listed here, and invariants of a task need no more
than these. Couriers that always answer never end a loop. -/

namespace Telemetry

open Relation

variable {α : Type}

/-- Whatever batches it is given one after the other, it answers and never panics. -/
def Courier.Returns (courier : Courier) : Prop :=
  ∀ (given : List (Calendar × List QueuedHit)) (calendar : Calendar) (batch : List QueuedHit)
    message,
    ((given.foldl (fun held next => (held.deliver next.1 next.2).courier) courier).deliver
      calendar batch).answer ≠ .panicked message

theorem Courier.Returns.answer {courier : Courier} (returns : courier.Returns) (calendar : Calendar)
    (batch : List QueuedHit) (message : String) :
    (courier.deliver calendar batch).answer ≠ .panicked message :=
  returns [] calendar batch message

theorem Courier.Returns.deliver {courier : Courier} (returns : courier.Returns)
    (calendar : Calendar) (batch : List QueuedHit) :
    (courier.deliver calendar batch).courier.Returns :=
  fun given => returns ((calendar, batch) :: given)

theorem Courier.returns_scripted {answers : List Answer}
    (quiet : ∀ answer ∈ answers, ∀ message, answer ≠ .panicked message) :
    (Courier.scripted answers).Returns := by
  intro given
  induction given generalizing answers with
  | nil =>
      intro calendar batch message
      cases answers with
      | nil =>
          intro same
          cases same
      | cons answer rest => exact quiet answer List.mem_cons_self message
  | cons next rest ih =>
      exact ih fun answer member => quiet answer (List.mem_of_mem_drop member)

/-- Under a policy whose pauses all come out a delivery ends with an answer. -/
theorem HttpSender.sendGroups_answers {sender : HttpSender}
    (pauses : ∀ attempt, attempt + 1 < sender.policy.attempts →
      (sender.policy.backoff? attempt).isSome = true)
    (calendar : Calendar) (groups : List (List QueuedHit)) (collector : Collector)
    (message : String) :
    (sender.sendGroups calendar groups collector).answer ≠ .panicked message := by
  have group (calendar : Calendar) (batch : List QueuedHit) (collector : Collector) :
      (sender.sendGroup calendar batch collector).answer ≠ .panicked message := by
    unfold sendGroup
    dsimp only
    have ends (call : Collector → Except ServiceError Unit × Collector) :
        ∃ last, (sender.policy.run call collector).result = .of last := by
      obtain ⟨_, last, _, ending, _⟩ := retryFrom_calls sender.policy sender.policy.backoff? call 1
        (sender.policy.attempts - 1) collector (Nat.le_refl 1)
        (fun index within => pauses index (by omega))
      exact ⟨last, ending⟩
    obtain ⟨last, ending⟩ := ends _
    rw [ending]
    cases last with
    | ok done => exact Answer.noConfusion
    | error error => exact Answer.noConfusion
  induction groups generalizing calendar collector with
  | nil => exact Answer.noConfusion
  | cons batch rest ih =>
      unfold sendGroups
      dsimp only
      split
      · exact ih _ _
      · exact group calendar batch collector

theorem Courier.returns_http {sender : HttpSender} (collector : Collector)
    (pauses : ∀ attempt, attempt + 1 < sender.policy.attempts →
      (sender.policy.backoff? attempt).isSome = true) :
    (Courier.http sender collector).Returns := by
  intro given
  induction given generalizing collector with
  | nil =>
      intro calendar batch message
      exact sender.sendGroups_answers pauses calendar _ collector message
  | cons next rest ih => exact ih _

/-- All couriers always answer. -/
def Outbox.Returns (outbox : Outbox) : Prop :=
  ∀ courier ∈ outbox.couriers, courier.Returns

theorem Outbox.Returns.deliver {outbox : Outbox} (returns : outbox.Returns) (queue courier : Nat)
    (batch : List QueuedHit) :
    (∀ message, (outbox.deliver queue courier batch).1 ≠ .panicked message) ∧
      (outbox.deliver queue courier batch).2.Returns := by
  unfold Outbox.deliver
  split
  · exact ⟨fun _ => Answer.noConfusion, returns⟩
  · rename_i found held
    have answers := returns found (List.mem_of_getElem? held)
    refine ⟨answers.answer _ batch, ?_⟩
    intro other member
    rcases List.mem_or_eq_of_mem_set member with old | new
    · exact returns other old
    · rw [new]
      exact answers.deliver _ batch

namespace Task

/-- One change of the task in a place by an event. If all is calm, deliveries do not end by a
panic. -/
inductive Change (calm : Prop) (event : QueueEvent α) (place : Nat) (task : Task α) :
    Task α → Prop where
  | enqueue {queued : QueuedHit} {room : HitQueue.Accepted} (ticket : Nat)
      (taken : task.queue.enqueue queued = some room) :
      Change calm event place task (task.withQueue room.queue ticket)
  | drain (ticket : Nat) :
      Change calm event place task (task.withQueue task.queue.drain.2 ticket)
  | close (ticket : Nat) (asked : event = .close place) :
      Change calm event place task (task.withQueue task.queue.close ticket)
  | step {index now ticket : Nat} {loop : HitLoop} {answer : Answer} {next : Task α}
      (held : task.loops[index]? = some loop)
      (quiet : calm → ∀ message, answer ≠ .panicked message)
      (moved : task.step index now ticket loop answer = some next) :
      Change calm event place task next
  | start (turn : Nat) (asked : event = .start place) :
      Change calm event place task { task with loops := task.loops ++ [{ turn }] }
  | adjust {change : α → α} (asked : event = .adjust place change) :
      Change calm event place task { task with owner := change task.owner }

abbrev Course (calm : Prop) (event : QueueEvent α) (place : Nat) : Task α → Task α → Prop :=
  ReflTransGen (Change calm event place)

theorem Course.preserves {calm : Prop} {event : QueueEvent α} {place : Nat}
    (holds : Task α → Prop) {before after : Task α} (course : Course calm event place before after)
    (step : ∀ {task next : Task α}, Change calm event place task next → holds task → holds next)
    (start : holds before) : holds after := by
  induction course with
  | refl => exact start
  | tail _ change ih => exact step change ih

theorem returns_deliver (task : Task α) (loop : HitLoop) (index : Nat) {outbox : Outbox}
    (returns : outbox.Returns) :
    (∀ message, (task.deliver loop index outbox).1 ≠ .panicked message) ∧
      (task.deliver loop index outbox).2.Returns := by
  unfold deliver
  split
  · exact ⟨fun _ => Answer.noConfusion, returns⟩
  · rename_i batch _
    have delivered := returns.deliver index task.courier batch
    dsimp only
    split
    · exact delivered
    · exact delivered

end Task

namespace Engine

structure Continues (calm : Prop) (event : QueueEvent α) (before after : Engine α) : Prop where
  length : after.tasks.length = before.tasks.length
  course : ∀ (place : Nat) (task : Task α), before.tasks[place]? = some task →
    ∃ next : Task α, after.tasks[place]? = some next ∧ Task.Course calm event place task next

variable {calm : Prop} {event : QueueEvent α} {before between after : Engine α}

theorem Continues.of_tasks (same : after.tasks = before.tasks) :
    before.Continues calm event after := by
  refine ⟨congrArg _ same, ?_⟩
  intro place task found
  exact ⟨task, same ▸ found, .refl⟩

theorem Continues.trans (first : before.Continues calm event between)
    (second : between.Continues calm event after) : before.Continues calm event after := by
  refine ⟨second.length.trans first.length, ?_⟩
  intro place task found
  obtain ⟨middle, there, early⟩ := first.course place task found
  obtain ⟨next, reached, late⟩ := second.course place middle there
  exact ⟨next, reached, early.trans late⟩

theorem Continues.set {index : Nat} {task next : Task α} (found : before.tasks[index]? = some task)
    (tasks : after.tasks = before.tasks.set index next)
    (change : Task.Change calm event index task next) : before.Continues calm event after := by
  constructor
  · rw [tasks, List.length_set]
  · intro place held there
    rw [tasks]
    by_cases same : index = place
    · subst same
      have inside := (List.getElem?_eq_some_iff.mp found).1
      have own : held = task := Option.some.inj (there.symm.trans found)
      exact ⟨next, List.getElem?_set_self inside, own ▸ .single change⟩
    · exact ⟨held, (List.getElem?_set_ne same).trans there, .refl⟩

theorem Continues.modify {index : Nat} {change : Task α → Task α}
    (changed : ∀ task, before.tasks[index]? = some task →
      Task.Change calm event index task (change task)) :
    before.Continues calm event (before.modify index change) := by
  unfold Engine.modify
  split
  · exact .of_tasks rfl
  · rename_i task found
    exact .set found rfl (changed task found)

theorem continues_enqueue (engine : Engine α) (index : Nat) (hit : Hit) :
    engine.Continues calm event (engine.enqueue index hit).2 := by
  unfold Engine.enqueue
  dsimp only
  split
  · exact .of_tasks rfl
  · rename_i room taken
    have changed : engine.Continues calm event (engine.setQueue index room.queue) := by
      apply Continues.modify
      intro task found
      simp only [queue?, found, Option.map_some, Option.bind_some] at taken
      exact .enqueue _ taken
    exact changed.trans (.of_tasks rfl)

theorem Continues.report (continues : before.Continues calm event after) (answer : Answer) :
    before.Continues calm event (after.report answer) :=
  report_preserves (before.Continues calm event)
    (fun engine index hit reached => reached.trans (continues_enqueue engine index hit))
    after answer continues

theorem continues_flush (engine : Engine α) (index : Nat) :
    engine.Continues calm event (engine.flush index).2 := by
  unfold Engine.flush
  split
  · exact .of_tasks rfl
  · rename_i task found
    have drained : engine.Continues calm event (engine.setQueue index task.queue.drain.2) := by
      apply Continues.modify
      intro own held
      rw [Option.some.inj (held.symm.trans found)]
      exact .drain _
    dsimp only
    split
    · exact drained
    · apply Continues.report
      exact drained.trans (.of_tasks rfl)

theorem continues_close (engine : Engine α) (index : Nat) :
    engine.Continues calm (.close index) (engine.close index) := by
  unfold Engine.close
  split
  · exact .of_tasks rfl
  · rename_i queue found
    apply Continues.modify
    intro task held
    simp only [queue?, held, Option.map_some, Option.some.injEq] at found
    rw [← found]
    exact .close _ rfl

theorem continues_move {engine next : Engine α} {index place : Nat}
    (moved : engine.move index place = some next) :
    engine.Continues engine.outbox.Returns event next := by
  obtain ⟨task, loop, stepped, found, held, step, rfl⟩ := move_cases moved
  refine Continues.report (.set found rfl ?_) _
  exact .step held (fun returns => (task.returns_deliver loop index returns).1) step

theorem after_cases (engine : Engine α) (event : QueueEvent α) :
    (∃ owner courier config, event = .add owner courier config) ∨
      engine.Continues engine.outbox.Returns event (engine.after event) := by
  cases event with
  | add owner courier config => exact .inl ⟨owner, courier, config, rfl⟩
  | enqueue index hit => exact .inr (continues_enqueue engine index hit)
  | flush index => exact .inr (continues_flush engine index)
  | close index => exact .inr (continues_close engine index)
  | go index place =>
      refine .inr ?_
      cases moved : engine.move index place with
      | none =>
          simp only [Engine.after, moved, Option.getD_none]
          exact .of_tasks rfl
      | some next =>
          simp only [Engine.after, moved, Option.getD_some]
          exact continues_move moved
  | tick milliseconds => exact .inr (.of_tasks rfl)
  | start index => exact .inr (.modify fun _ _ => .start _ rfl)
  | log events => exact .inr (.of_tasks rfl)
  | lend witness => exact .inr (.of_tasks rfl)
  | adjust index change => exact .inr (.modify fun _ _ => .adjust rfl)
  | supply courier => exact .inr (.of_tasks rfl)

theorem task_after (engine : Engine α) (event : QueueEvent α) {place : Nat} {task : Task α}
    (found : engine.tasks[place]? = some task) :
    ∃ next, (engine.after event).tasks[place]? = some next ∧
      Task.Course engine.outbox.Returns event place task next := by
  rcases engine.after_cases event with ⟨owner, courier, config, rfl⟩ | continues
  · have inside := (List.getElem?_eq_some_iff.mp found).1
    exact ⟨task, (List.getElem?_append_left inside).trans found, .refl⟩
  · exact continues.course place task found

/-- What a new queue satisfies and every change preserves holds of all queues. -/
theorem everywhere_after {holds : Task α → Prop} {engine : Engine α} (event : QueueEvent α)
    (fresh : ∀ owner courier config, event = .add owner courier config →
      holds { owner, courier, queue := { config } })
    (kept : ∀ {place : Nat} {task next : Task α},
      Task.Change engine.outbox.Returns event place task next → holds task → holds next)
    (everywhere : ∀ task ∈ engine.tasks, holds task) :
    ∀ task ∈ (engine.after event).tasks, holds task := by
  intro next member
  rcases engine.after_cases event with ⟨owner, courier, config, rfl⟩ | continues
  · rcases List.mem_append.mp member with old | new
    · exact everywhere next old
    · rw [List.mem_singleton.mp new]
      exact fresh owner courier config rfl
  · obtain ⟨place, inside, rfl⟩ := List.getElem_of_mem member
    have found := List.getElem?_eq_getElem (continues.length ▸ inside)
    obtain ⟨reached, there, course⟩ := continues.course place _ found
    rw [List.getElem?_eq_getElem inside] at there
    rw [Option.some.inj there]
    exact course.preserves holds kept (everywhere _ (List.getElem_mem _))

section Keeping

variable (holds : Outbox → Prop)
  (stamps : ∀ outbox hit, holds outbox → holds (outbox.stamp hit).2)
  (notes : ∀ outbox happenings, holds outbox → holds (outbox.note happenings))
  (delivers : ∀ outbox queue courier batch, holds outbox →
    holds (outbox.deliver queue courier batch).2)

include stamps notes in
theorem outbox_enqueue {engine : Engine α} (index : Nat) (hit : Hit)
    (start : holds engine.outbox) : holds (engine.enqueue index hit).2.outbox := by
  unfold Engine.enqueue
  dsimp only
  split
  · exact start
  · exact notes _ _ (stamps _ hit start)

include notes delivers in
theorem outbox_deliver (task : Task α) (loop : HitLoop) (index : Nat) {outbox : Outbox}
    (start : holds outbox) : holds (task.deliver loop index outbox).2 := by
  unfold Task.deliver
  split
  · exact start
  · have delivered := delivers _ index task.courier ‹_› start
    dsimp only
    split
    · exact notes _ _ delivered
    · exact delivered

include stamps notes delivers in
/-- What the outbox keeps when a hit gets its number, when something is noted and when a batch is
delivered, it keeps through every event in which no courier joins. -/
theorem outbox_after {event : QueueEvent α}
    (supplies : ∀ outbox courier, event = .supply courier → holds outbox →
      holds { outbox with couriers := outbox.couriers ++ [courier] })
    {engine : Engine α} (start : holds engine.outbox) : holds (engine.after event).outbox := by
  have report (engine : Engine α) (answer : Answer) (kept : holds engine.outbox) :
      holds (engine.report answer).outbox :=
    report_preserves (holds ·.outbox) (fun _ index hit => outbox_enqueue holds stamps notes index hit)
      engine answer kept
  cases event with
  | enqueue index hit => exact outbox_enqueue holds stamps notes index hit start
  | flush index =>
      simp only [Engine.after, Engine.flush]
      split
      · exact start
      · rename_i task found
        have emptied : holds (engine.setQueue index task.queue.drain.2).outbox :=
          (outbox_modify engine index _).symm ▸ start
        split
        · exact emptied
        · exact report _ _ (delivers _ _ _ _ emptied)
  | close index =>
      simp only [Engine.after, Engine.close]
      split
      · exact start
      · exact (outbox_modify engine index _).symm ▸ start
  | go index place =>
      cases moved : engine.move index place with
      | none => simpa only [Engine.after, moved, Option.getD_none] using start
      | some next =>
          simp only [Engine.after, moved, Option.getD_some]
          obtain ⟨task, loop, stepped, found, held, step, rfl⟩ := move_cases moved
          exact report _ _ (outbox_deliver holds notes delivers task loop index start)
  | start index => exact (outbox_modify engine index _).symm ▸ start
  | adjust index change => exact (outbox_modify engine index _).symm ▸ start
  | log events => exact notes _ _ start
  | supply courier => exact supplies _ courier rfl start
  | _ => exact start

end Keeping

theorem returns_after {engine : Engine α} (returns : engine.outbox.Returns)
    (event : QueueEvent α) (trusted : ∀ courier, event = .supply courier → courier.Returns) :
    (engine.after event).outbox.Returns := by
  refine outbox_after Outbox.Returns (fun _ _ kept => kept) (fun _ _ kept => kept)
    (fun _ _ _ _ kept => (kept.deliver _ _ _).2) ?_ returns
  intro outbox courier supplied kept other member
  rcases List.mem_append.mp member with old | new
  · exact kept other old
  · rw [List.mem_singleton.mp new]
    exact trusted courier supplied

/-- What clients that make a sender of their own are connected to is not up to them. -/
theorem collectors_after (engine : Engine α) (event : QueueEvent α) :
    (engine.after event).outbox.world.collectors = engine.outbox.world.collectors := by
  have deliver (outbox : Outbox) (queue courier : Nat) (batch : List QueuedHit) :
      (outbox.deliver queue courier batch).2.world.collectors = outbox.world.collectors := by
    unfold Outbox.deliver
    split
    · rfl
    · rfl
  exact outbox_after (·.world.collectors = engine.outbox.world.collectors)
    (fun _ _ kept => kept) (fun _ _ kept => kept)
    (fun _ _ _ _ kept => (deliver _ _ _ _).trans kept) (fun _ _ _ kept => kept) rfl

theorem flush_answers {engine : Engine α} (returns : engine.outbox.Returns) (index : Nat)
    (message : String) : (engine.flush index).1 ≠ .panicked message := by
  unfold flush
  split
  · exact Answer.noConfusion
  · rename_i task _
    dsimp only
    split
    · exact Answer.noConfusion
    · have emptied : (engine.setQueue index task.queue.drain.2).outbox = engine.outbox :=
        outbox_modify engine index _
      rw [emptied]
      exact (returns.deliver index task.courier task.queue.drain.1).1 message

end Engine

end Telemetry
