import Mathlib.Data.List.Nodup
import Telemetry.Proofs.Queue.Ledger

/-! No hit is lost and none is doubled. The accounts of every queue are balanced after every event,
and every hit that comes in has a number of its own, so that no two entries of the accounts can be
taken for each other, even if the calendar stands still. -/

namespace Telemetry

open Journal

variable {α : Type}

theorem Outbox.journal_deliver (outbox : Outbox) (queue courier : Nat) (batch : List QueuedHit) :
    ∃ warnings : List LogEvent, (outbox.deliver queue courier batch).2.journal =
      outbox.journal ++
        ofDelivery queue courier batch (outbox.deliver queue courier batch).1 warnings [] := by
  unfold deliver
  split
  · exact ⟨[], rfl⟩
  · rename_i found _
    refine ⟨(found.deliver outbox.world.calendar batch).log, ?_⟩
    simp only [log, note, ofDelivery, List.map_nil, List.append_nil, List.append_assoc]

theorem Outbox.arrivals_deliver (outbox : Outbox) (queue courier : Nat)
    (batch : List QueuedHit) :
    (outbox.deliver queue courier batch).2.arrivals = outbox.arrivals := by
  unfold deliver
  split
  · rfl
  · rfl

theorem Task.deliver_none {task : Task α} {loop : HitLoop} {index : Nat} {outbox : Outbox}
    (idle : loop.stage.batch? = none) : task.deliver loop index outbox = (.delivered, outbox) := by
  simp only [deliver, idle]

theorem Task.journal_deliver (task : Task α) (index : Nat) (outbox : Outbox) {loop : HitLoop}
    {batch : List QueuedHit} (holds : loop.stage.batch? = some batch) :
    ∃ early late : List LogEvent, (task.deliver loop index outbox).2.journal =
      outbox.journal ++
        ofDelivery index task.courier batch (task.deliver loop index outbox).1 early late := by
  obtain ⟨early, written⟩ := outbox.journal_deliver index task.courier batch
  unfold deliver
  simp only [holds]
  split
  · refine ⟨early, [.flushFailed], ?_⟩
    simp only [Outbox.log, Outbox.note, written, ofDelivery, List.map_nil, List.append_nil,
      List.append_assoc]
  · exact ⟨early, [], written⟩

theorem Task.arrivals_deliver (task : Task α) (loop : HitLoop) (index : Nat) (outbox : Outbox) :
    (task.deliver loop index outbox).2.arrivals = outbox.arrivals := by
  unfold deliver
  split
  · rfl
  · rename_i batch holds
    have same := outbox.arrivals_deliver index task.courier batch
    dsimp only
    split
    · exact same
    · exact same

namespace Engine

def holding (engine : Engine α) (queue : Nat) (hit : QueuedHit) : Nat :=
  (engine.tasks[queue]?).elim 0 (·.holding hit)

/-- Whatever a queue took was dropped or answered, or is held by the queue and its loops. -/
def Balanced (engine : Engine α) : Prop :=
  ∀ queue hit, (accepted queue engine.outbox.journal).count hit =
    (dropped queue engine.outbox.journal).count hit +
      (answered queue engine.outbox.journal).flatten.count hit + engine.holding queue hit

theorem Balanced.exchange {before after : Engine α} (news : List Happening)
    (balanced : before.Balanced)
    (journal : after.outbox.journal = before.outbox.journal ++ news)
    (exchange : ∀ queue hit, (accepted queue news).count hit + before.holding queue hit =
      (dropped queue news).count hit + (answered queue news).flatten.count hit +
        after.holding queue hit) : after.Balanced := by
  intro queue hit
  have own := balanced queue hit
  have change := exchange queue hit
  rw [journal]
  simp only [accepted_append, dropped_append, answered_append, List.count_append,
    List.flatten_append]
  omega

theorem Balanced.unmoved {before after : Engine α} (balanced : before.Balanced)
    (journal : after.outbox.journal = before.outbox.journal)
    (held : ∀ queue hit, after.holding queue hit = before.holding queue hit) : after.Balanced := by
  intro queue hit
  rw [journal, held queue hit]
  exact balanced queue hit

theorem holding_modify (engine : Engine α) (index queue : Nat) (change : Task α → Task α)
    (hit : QueuedHit) :
    (engine.modify index change).holding queue hit =
      if index = queue then (engine.tasks[queue]?).elim 0 fun task => (change task).holding hit
      else engine.holding queue hit := by
  unfold holding
  rw [task_modify]
  split
  · cases engine.tasks[queue]? <;> rfl
  · rfl

theorem Balanced.modify {engine : Engine α} (balanced : engine.Balanced) (index : Nat)
    {change : Task α → Task α} (kept : ∀ task hit, (change task).holding hit = task.holding hit) :
    (engine.modify index change).Balanced := by
  apply balanced.unmoved
  · rw [outbox_modify]
  · intro queue hit
    rw [holding_modify]
    split
    · simp only [kept]
      rfl
    · rfl

theorem outbox_setQueue (engine : Engine α) (index : Nat) (queue : HitQueue) :
    (engine.setQueue index queue).outbox = engine.outbox :=
  outbox_modify engine index _

theorem holding_setQueue {engine : Engine α} {index : Nat} {task : Task α}
    (found : engine.tasks[index]? = some task) (queue : HitQueue) (place : Nat)
    (hit : QueuedHit) :
    (engine.setQueue index queue).holding place hit +
        (if index = place then task.queue.hits.count hit else 0) =
      engine.holding place hit + (if index = place then queue.hits.count hit else 0) := by
  unfold setQueue
  rw [holding_modify]
  by_cases same : index = place
  · subst same
    simp only [if_pos, found, Option.elim_some, holding]
    exact task.holding_withQueue queue engine.ticket hit
  · simp only [if_neg same]

theorem Balanced.close {engine : Engine α} (balanced : engine.Balanced) (index : Nat) :
    (engine.close index).Balanced := by
  unfold Engine.close
  split
  · exact balanced
  · rename_i queue found
    obtain ⟨task, held, rfl⟩ := Option.map_eq_some_iff.mp found
    apply balanced.unmoved
    · exact congrArg _ (outbox_setQueue engine index _)
    · intro place hit
      have sums := holding_setQueue held task.queue.close place hit
      have same : task.queue.close.hits = task.queue.hits := rfl
      rw [same] at sums
      omega

def stamped (engine : Engine α) (hit : Hit) : QueuedHit := (engine.outbox.stamp hit).1

theorem enqueue_cases (engine : Engine α) (index : Nat) (hit : Hit) :
    ((engine.enqueue index hit) = (.error .closed, engine) ∧
        ∀ task, engine.tasks[index]? = some task → task.queue.closed = true) ∨
      ∃ task room, engine.tasks[index]? = some task ∧ task.queue.closed = false ∧
        task.queue.enqueue (engine.stamped hit) = some room ∧
        engine.enqueue index hit =
          (.ok (), { engine.setQueue index room.queue with
            outbox := (engine.outbox.stamp hit).2.note
              (ofArrival index room.dropped (engine.stamped hit)) }) := by
  unfold Engine.enqueue
  dsimp only
  split
  · rename_i refused
    refine .inl ⟨rfl, ?_⟩
    intro task found
    simp only [queue?, found, Option.map_some, Option.bind_some, HitQueue.enqueue] at refused
    split at refused
    · assumption
    · cases refused
  · rename_i room taken
    obtain ⟨queue, found, enqueued⟩ := Option.bind_eq_some_iff.mp taken
    obtain ⟨task, held, rfl⟩ := Option.map_eq_some_iff.mp found
    refine .inr ⟨task, room, held, ?_, enqueued, rfl⟩
    cases closed : task.queue.closed with
    | false => rfl
    | true => simp [HitQueue.enqueue, closed] at enqueued

theorem Balanced.enqueue {engine : Engine α} (balanced : engine.Balanced) (index : Nat)
    (hit : Hit) : (engine.enqueue index hit).2.Balanced := by
  rcases engine.enqueue_cases index hit with ⟨refused, _⟩ | ⟨task, room, found, _, taken, result⟩
  · rw [refused]
    exact balanced
  · rw [result]
    apply balanced.exchange (ofArrival index room.dropped (engine.stamped hit)) rfl
    intro place queued
    have sums := holding_setQueue found room.queue place queued
    have exchanged := HitQueue.count_enqueue taken queued
    change _ + _ = _ + _ + (engine.setQueue index room.queue).holding place queued
    obtain ⟨came, went, delivered⟩ :=
      entries_ofArrival index room.dropped (engine.stamped hit)
    simp only [accepted, Journal.dropped, answered, came, went, delivered, about_nil,
      List.flatten_nil, List.count_nil]
    by_cases same : index = place
    · subst same
      rw [about_own, about_own]
      simp only [if_pos] at sums
      omega
    · rw [about_other same, about_other same]
      simp only [if_neg same] at sums
      simp only [List.count_nil]
      omega

/-- A batch leaves the hands of its queue, and the journal says that it was answered. -/
theorem Balanced.deliver {before after : Engine α} {index courier : Nat}
    {batch : List QueuedHit} {answer : Answer} {early late : List LogEvent}
    (balanced : before.Balanced)
    (written : after.outbox.journal =
      before.outbox.journal ++ ofDelivery index courier batch answer early late)
    (handed : ∀ queue hit, after.holding queue hit + (if index = queue then batch.count hit else 0) =
      before.holding queue hit) : after.Balanced := by
  apply balanced.exchange _ written
  intro queue hit
  obtain ⟨came, went, delivered⟩ := entries_ofDelivery index courier batch answer early late
  simp only [accepted, Journal.dropped, answered, came, went, delivered, about_nil, List.count_nil]
  have sum := handed queue hit
  by_cases same : index = queue
  · subst same
    rw [about_own]
    simp only [if_pos, List.flatten_cons, List.flatten_nil, List.append_nil] at sum ⊢
    omega
  · rw [about_other same]
    simp only [if_neg same, List.flatten_nil, List.count_nil] at sum ⊢
    omega

theorem Balanced.flush {engine : Engine α} (balanced : engine.Balanced) (index : Nat) :
    (engine.flush index).2.Balanced := by
  unfold Engine.flush
  split
  · exact balanced
  · rename_i task found
    have sums := fun place hit => holding_setQueue found task.queue.drain.2 place hit
    dsimp only
    split
    · rename_i empty
      have none : task.queue.hits = [] := List.isEmpty_iff.mp empty
      apply balanced.unmoved
      · exact congrArg _ (outbox_setQueue engine index _)
      · intro place hit
        have sum := sums place hit
        simp only [none, HitQueue.drain, List.count_nil, ite_self, Nat.add_zero] at sum
        exact sum
    · apply report_preserves Balanced fun _ place hit kept => kept.enqueue place hit
      obtain ⟨early, written⟩ :=
        (engine.setQueue index task.queue.drain.2).outbox.journal_deliver index task.courier
          task.queue.drain.1
      apply balanced.deliver (written.trans (by rw [outbox_setQueue]))
      intro place hit
      have sum := sums place hit
      simp only [HitQueue.drain, List.count_nil, ite_self, Nat.add_zero] at sum
      exact sum

theorem holding_set {before after : Engine α} {index : Nat} {task next : Task α}
    (found : before.tasks[index]? = some task) (tasks : after.tasks = before.tasks.set index next)
    (place : Nat) (hit : QueuedHit) :
    after.holding place hit = if index = place then next.holding hit
      else before.holding place hit := by
  unfold holding
  rw [tasks]
  by_cases same : index = place
  · subst same
    have inside : index < before.tasks.length := (List.getElem?_eq_some_iff.mp found).1
    rw [List.getElem?_set_self inside, if_pos rfl]
    rfl
  · rw [List.getElem?_set_ne same, if_neg same]

theorem holding_step {task next : Task α} {place now ticket : Nat} {loop : HitLoop}
    {answer : Answer} (held : task.loops[place]? = some loop)
    (moved : task.step place now ticket loop answer = some next) (hit : QueuedHit) :
    next.holding hit + loop.carried.count hit = task.holding hit := by
  obtain ⟨⟨queue, after⟩, stepped, rfl⟩ := Option.map_eq_some_iff.mp moved
  have taken : (after.carried ++ queue.hits).count hit = task.queue.hits.count hit :=
    congrArg _ (HitLoop.carried_step stepped)
  have sums := total_set (fun loop : HitLoop => loop.carried.count hit) task.loops place after
    loop held
  rw [List.count_append] at taken
  simp only [Task.holding]
  omega

theorem Balanced.move {engine next : Engine α} (balanced : engine.Balanced) {index place : Nat}
    (moved : engine.move index place = some next) : next.Balanced := by
  obtain ⟨task, loop, stepped, found, held, step, rfl⟩ := move_cases moved
  apply report_preserves Balanced fun _ place hit kept => kept.enqueue place hit
  have sums := holding_step held step
  cases holds : loop.stage.batch? with
  | none =>
      have carried : loop.carried = [] := by simp only [HitLoop.carried, holds, Option.getD_none]
      apply balanced.unmoved
      · rw [Task.deliver_none holds]
      · intro queue hit
        rw [holding_set found rfl]
        by_cases same : index = queue
        · subst same
          have sum := sums hit
          rw [carried, List.count_nil, Nat.add_zero] at sum
          simp only [if_pos, sum, holding, found, Option.elim_some]
        · rw [if_neg same]
  | some batch =>
      have carried : loop.carried = batch := by simp only [HitLoop.carried, holds, Option.getD_some]
      obtain ⟨early, late, written⟩ := task.journal_deliver index engine.outbox holds
      apply balanced.deliver written
      intro queue hit
      rw [holding_set found rfl]
      by_cases same : index = queue
      · subst same
        have sum := sums hit
        rw [carried] at sum
        simp only [if_pos, sum, holding, found, Option.elim_some]
      · rw [if_neg same, if_neg same, Nat.add_zero]

theorem Balanced.log {engine : Engine α} (balanced : engine.Balanced) (events : List LogEvent) :
    (engine.log events).Balanced := by
  apply balanced.exchange (events.map .logged) rfl
  intro queue hit
  obtain ⟨came, went, delivered⟩ := entries_logged events
  simp only [accepted, Journal.dropped, answered, came, went, delivered, about_nil, List.count_nil,
    List.flatten_nil, Nat.zero_add]
  rfl

theorem Balanced.start {engine : Engine α} (balanced : engine.Balanced) (index : Nat) :
    (engine.start index).Balanced := by
  apply balanced.modify
  intro task hit
  simp only [Task.holding, total_append, total_cons, total_nil]
  rfl

theorem Balanced.add {engine : Engine α} (balanced : engine.Balanced) (owner : α) (courier : Nat)
    (config : QueueConfig) : (engine.add owner courier config).Balanced := by
  apply balanced.unmoved
  · rfl
  · intro queue hit
    simp only [holding, Engine.add]
    by_cases inside : queue < engine.tasks.length
    · rw [List.getElem?_append_left inside]
    · have beyond : engine.tasks.length ≤ queue := Nat.le_of_not_lt inside
      rw [List.getElem?_append_right beyond, List.getElem?_eq_none beyond]
      cases queue - engine.tasks.length with
      | zero => rfl
      | succ rest => rfl

theorem Balanced.after {engine : Engine α} (balanced : engine.Balanced) (event : QueueEvent α) :
    (engine.after event).Balanced := by
  cases event with
  | enqueue index hit => exact balanced.enqueue index hit
  | flush index => exact balanced.flush index
  | close index => exact balanced.close index
  | go index place =>
      cases moved : engine.move index place with
      | none => simpa only [Engine.after, moved, Option.getD_none] using balanced
      | some next => simpa only [Engine.after, moved, Option.getD_some] using balanced.move moved
  | tick milliseconds => exact balanced
  | start index => exact balanced.start index
  | log events => exact balanced.log events
  | lend witness => exact balanced
  | adjust index change => exact balanced.modify index fun _ _ => rfl
  | add owner courier config => exact balanced.add owner courier config
  | supply courier => exact balanced

/-- Hits are numbered in the order in which they come in. -/
def Numbered (engine : Engine α) : Prop :=
  (engine.outbox.journal.filterMap intake?).Pairwise
      (fun early late => early.2.number < late.2.number) ∧
    ∀ entry ∈ engine.outbox.journal.filterMap intake?, entry.2.number < engine.outbox.arrivals

theorem Numbered.quiet {before after : Engine α} {news : List Happening} (numbered : before.Numbered)
    (journal : after.outbox.journal = before.outbox.journal ++ news)
    (silent : news.filterMap intake? = [])
    (same : after.outbox.arrivals = before.outbox.arrivals) : after.Numbered := by
  obtain ⟨ordered, past⟩ := numbered
  unfold Numbered
  rw [journal, List.filterMap_append, silent, List.append_nil, same]
  exact ⟨ordered, past⟩

theorem Numbered.same {before after : Engine α} (numbered : before.Numbered)
    (outbox : after.outbox = before.outbox) : after.Numbered := by
  unfold Numbered
  rw [outbox]
  exact numbered

theorem Numbered.enqueue {engine : Engine α} (numbered : engine.Numbered) (index : Nat) (hit : Hit) :
    (engine.enqueue index hit).2.Numbered := by
  rcases engine.enqueue_cases index hit with ⟨refused, _⟩ | ⟨task, room, _, _, _, result⟩
  · rw [refused]
    exact numbered
  · rw [result]
    obtain ⟨ordered, past⟩ := numbered
    obtain ⟨came, _, _⟩ := entries_ofArrival index room.dropped (engine.stamped hit)
    have journal : ((engine.outbox.stamp hit).2.note
        (ofArrival index room.dropped (engine.stamped hit))).journal.filterMap intake? =
          engine.outbox.journal.filterMap intake? ++ [(index, engine.stamped hit)] := by
      simp only [Outbox.note, Outbox.stamp, List.filterMap_append, came]
      rfl
    unfold Numbered
    rw [journal]
    constructor
    · refine List.pairwise_append.mpr ⟨ordered, List.pairwise_singleton _ _, ?_⟩
      intro early member late last
      rw [List.mem_singleton.mp last]
      exact past early member
    · intro entry member
      change entry.2.number < engine.outbox.arrivals + 1
      rcases List.mem_append.mp member with old | new
      · exact Nat.lt_succ_of_lt (past entry old)
      · rw [List.mem_singleton.mp new]
        exact Nat.lt_succ_self _

theorem Numbered.flush {engine : Engine α} (numbered : engine.Numbered) (index : Nat) :
    (engine.flush index).2.Numbered := by
  unfold Engine.flush
  split
  · exact numbered
  · rename_i task found
    dsimp only
    split
    · exact numbered.same (outbox_setQueue engine index _)
    · apply report_preserves Numbered fun _ place hit kept => kept.enqueue place hit
      rw [outbox_setQueue]
      obtain ⟨early, written⟩ :=
        engine.outbox.journal_deliver index task.courier task.queue.drain.1
      exact numbered.quiet written (entries_ofDelivery _ _ _ _ _ _).1
        (engine.outbox.arrivals_deliver index task.courier task.queue.drain.1)

theorem Numbered.move {engine next : Engine α} (numbered : engine.Numbered) {index place : Nat}
    (moved : engine.move index place = some next) : next.Numbered := by
  obtain ⟨task, loop, stepped, found, held, step, rfl⟩ := move_cases moved
  apply report_preserves Numbered fun _ place hit kept => kept.enqueue place hit
  cases holds : loop.stage.batch? with
  | none => exact numbered.same (by rw [Task.deliver_none holds])
  | some batch =>
      obtain ⟨early, late, written⟩ := task.journal_deliver index engine.outbox holds
      exact numbered.quiet written (entries_ofDelivery _ _ _ _ _ _).1
        (task.arrivals_deliver loop index engine.outbox)

theorem Numbered.after {engine : Engine α} (numbered : engine.Numbered) (event : QueueEvent α) :
    (engine.after event).Numbered := by
  cases event with
  | enqueue index hit => exact numbered.enqueue index hit
  | flush index => exact numbered.flush index
  | close index =>
      refine numbered.same ?_
      simp only [Engine.after, Engine.close]
      split
      · rfl
      · exact outbox_setQueue engine index _
  | go index place =>
      cases moved : engine.move index place with
      | none => simpa only [Engine.after, moved, Option.getD_none] using numbered
      | some next => simpa only [Engine.after, moved, Option.getD_some] using numbered.move moved
  | tick milliseconds => exact numbered
  | start index => exact numbered.same (outbox_modify engine index _)
  | log events => exact numbered.quiet rfl (entries_logged events).1 rfl
  | lend witness => exact numbered
  | adjust index change => exact numbered.same (outbox_modify engine index _)
  | add owner courier config => exact numbered
  | supply courier => exact numbered

theorem Numbered.distinct {engine : Engine α} (numbered : engine.Numbered) :
    ((engine.outbox.journal.filterMap intake?).map (·.2)).Nodup := by
  refine List.Pairwise.map _ ?_ numbered.1
  intro early late before same
  rw [same] at before
  exact Nat.lt_irrefl _ before

theorem Numbered.count_le_one {engine : Engine α} (numbered : engine.Numbered) (queue : Nat)
    (hit : QueuedHit) : (accepted queue engine.outbox.journal).count hit ≤ 1 := by
  have part : (accepted queue engine.outbox.journal).Sublist
      ((engine.outbox.journal.filterMap intake?).map (·.2)) :=
    List.filter_sublist.map _
  exact List.nodup_iff_count_le_one.mp (numbered.distinct.sublist part) hit

theorem Numbered.one_queue {engine : Engine α} (numbered : engine.Numbered) {first second : Nat}
    {hit : QueuedHit} (inFirst : hit ∈ accepted first engine.outbox.journal)
    (inSecond : hit ∈ accepted second engine.outbox.journal) : first = second := by
  have entry {queue : Nat} (member : hit ∈ accepted queue engine.outbox.journal) :
      (queue, hit) ∈ engine.outbox.journal.filterMap intake? := by
    obtain ⟨⟨index, held⟩, kept, rfl⟩ := List.mem_map.mp member
    obtain ⟨present, own⟩ := List.mem_filter.mp kept
    have same : index = queue := eq_of_beq own
    rw [← same]
    exact present
  have same := List.inj_on_of_nodup_map numbered.distinct (entry inFirst) (entry inSecond) rfl
  exact congrArg Prod.fst same

end Engine

end Telemetry
