import Telemetry.Proofs.Queue.Balance
import Telemetry.Proofs.Queue.Change
import Telemetry.Proofs.Queue.Seal

/-! How hits come in. Somebody brings them; the only other way is the report of a panic, and there
is none while nobody is told of panics. -/

namespace Telemetry

open Journal

variable {α : Type}

def QueueEvent.Silent : QueueEvent α → Prop
  | .enqueue _ _ | .lend (some _) => False
  | _ => True

namespace Engine

theorem report_unreported {engine : Engine α} {answer : Answer}
    (unreported : (∀ message, answer ≠ .panicked message) ∨ engine.witness = none) :
    engine.report answer = engine := by
  rcases unreported with calm | unheard
  · exact report_calm calm
  · unfold report
    split
    · rename_i index heard
      cases unheard.symm.trans heard
    · rfl

theorem witness_enqueue (engine : Engine α) (index : Nat) (hit : Hit) :
    (engine.enqueue index hit).2.witness = engine.witness := by
  unfold enqueue
  dsimp only
  split
  · rfl
  · exact witness_modify engine index _

theorem witness_report (engine : Engine α) (answer : Answer) :
    (engine.report answer).witness = engine.witness := by
  unfold report
  split
  · exact witness_enqueue engine _ _
  · rfl

theorem witness_after (engine : Engine α) {event : QueueEvent α}
    (other : ∀ witness, event ≠ .lend witness) :
    (engine.after event).witness = engine.witness := by
  cases event with
  | enqueue index hit => exact witness_enqueue engine index hit
  | flush index =>
      simp only [Engine.after, Engine.flush]
      split
      · rfl
      · split
        · exact witness_modify engine index _
        · rw [witness_report]
          exact witness_modify engine index _
  | close index =>
      simp only [Engine.after, Engine.close]
      split
      · rfl
      · exact witness_modify engine index _
  | go index place =>
      cases moved : engine.move index place with
      | none => simp only [Engine.after, moved, Option.getD_none]
      | some next =>
          simp only [Engine.after, moved, Option.getD_some]
          obtain ⟨task, loop, stepped, found, held, step, rfl⟩ := move_cases moved
          rw [witness_report]
  | start index => exact witness_modify engine index _
  | adjust index change => exact witness_modify engine index _
  | lend witness => exact absurd rfl (other witness)
  | _ => rfl

/-- If couriers always answer, or nobody reports their panics, hits come in and are lost only when
somebody brings one. -/
theorem silent_after {engine : Engine α} {event : QueueEvent α}
    (unreported : engine.outbox.Returns ∨ engine.witness = none)
    (other : ∀ index hit, event ≠ .enqueue index hit) :
    ∃ news, (engine.after event).outbox.journal = engine.outbox.journal ++ news ∧
      news.filterMap intake? = [] ∧ news.filterMap loss? = [] := by
  have still {after : Engine α} (same : after.outbox.journal = engine.outbox.journal) :
      ∃ news, after.outbox.journal = engine.outbox.journal ++ news ∧
        news.filterMap intake? = [] ∧ news.filterMap loss? = [] :=
    ⟨[], by rw [same, List.append_nil], rfl, rfl⟩
  cases event with
  | enqueue index hit => exact absurd rfl (other index hit)
  | flush index =>
      simp only [Engine.after, Engine.flush]
      split
      · exact still rfl
      · rename_i task found
        split
        · apply still
          rw [outbox_setQueue]
        · rw [outbox_setQueue]
          rw [report_unreported]
          · obtain ⟨early, written⟩ :=
              engine.outbox.journal_deliver index task.courier task.queue.drain.1
            obtain ⟨came, went, _⟩ := entries_ofDelivery index task.courier task.queue.drain.1
              (engine.outbox.deliver index task.courier task.queue.drain.1).1 early []
            exact ⟨_, written, came, went⟩
          · exact unreported.imp
              (fun returns => (returns.deliver index task.courier task.queue.drain.1).1)
              fun unheard => (witness_modify engine index _).trans unheard
  | close index =>
      apply still
      simp only [Engine.after, Engine.close]
      split
      · rfl
      · rw [outbox_setQueue]
  | go index place =>
      cases moved : engine.move index place with
      | none =>
          simp only [Engine.after, moved, Option.getD_none]
          exact still rfl
      | some next =>
          simp only [Engine.after, moved, Option.getD_some]
          obtain ⟨task, loop, stepped, found, held, step, rfl⟩ := move_cases moved
          rw [report_unreported]
          · cases holds : loop.stage.batch? with
            | none =>
                apply still
                rw [Task.deliver_none holds]
            | some batch =>
                obtain ⟨early, late, written⟩ := task.journal_deliver index engine.outbox holds
                obtain ⟨came, went, _⟩ := entries_ofDelivery index task.courier batch
                  (task.deliver loop index engine.outbox).1 early late
                exact ⟨_, written, came, went⟩
          · exact unreported.imp_left
              fun returns => (task.returns_deliver loop index returns).1
  | start index =>
      apply still
      simp only [Engine.after, Engine.start, outbox_modify]
  | log events => exact ⟨_, rfl, (entries_logged events).1, (entries_logged events).2.1⟩
  | adjust index change =>
      apply still
      simp only [Engine.after, outbox_modify]
  | _ => exact still rfl

def arrivals (engine : Engine α) : List (Nat × QueuedHit) :=
  engine.outbox.journal.filterMap intake?

/-- A hit comes into a queue that is there and takes hits, and into no other. -/
theorem arrives_iff (engine : Engine α) (index : Nat) (hit : Hit) :
    (engine.enqueue index hit).2.arrivals ≠ engine.arrivals ↔
      ∃ task, engine.tasks[index]? = some task ∧ task.queue.closed = false := by
  rcases engine.enqueue_cases index hit with
    ⟨refused, closed⟩ | ⟨task, room, found, unclosed, _, result⟩
  · rw [refused]
    constructor
    · exact absurd rfl
    · rintro ⟨task, found, unclosed⟩
      rw [closed task found] at unclosed
      cases unclosed
  · rw [result]
    refine iff_of_true ?_ ⟨task, found, unclosed⟩
    obtain ⟨came, _⟩ := entries_ofArrival index room.dropped (engine.stamped hit)
    have one : ([engine.stamped hit].map (index, ·)).length = 1 := rfl
    intro same
    have lengths := congrArg List.length same
    simp only [arrivals, Outbox.note, Outbox.stamp, List.filterMap_append, came,
      List.length_append, one] at lengths
    omega

/-- A queue that takes hits takes this one as its last; the other queues stay as they are. -/
theorem enqueue_opened {engine : Engine α} {index : Nat} {task : Task α}
    (found : engine.tasks[index]? = some task) (opened : task.queue.closed = false) (hit : Hit) :
    (engine.enqueue index hit).2.arrivals = engine.arrivals ++ [(index, engine.stamped hit)] ∧
      (∃ next, (engine.enqueue index hit).2.tasks[index]? = some next ∧
        next.queue.hits = task.queue.makeRoom.queue.hits ++ [engine.stamped hit]) ∧
      ∀ other, other ≠ index →
        (engine.enqueue index hit).2.tasks[other]? = engine.tasks[other]? := by
  rcases engine.enqueue_cases index hit with
    ⟨refused, closed⟩ | ⟨there, room, held, _, taken, result⟩
  · cases opened.symm.trans (closed task found)
  · cases found.symm.trans held
    obtain ⟨came, _⟩ := entries_ofArrival index room.dropped (engine.stamped hit)
    rw [result]
    refine ⟨?_, ⟨task.withQueue room.queue engine.ticket, ?_, ?_⟩, ?_⟩
    · simp only [arrivals, Outbox.note, Outbox.stamp, List.filterMap_append, came]
      rfl
    · dsimp only [setQueue]
      rw [task_modify, if_pos rfl, found]
      rfl
    · unfold HitQueue.enqueue at taken
      rw [if_neg (by rw [opened]; exact Bool.false_ne_true)] at taken
      rw [(task.queue_withQueue room.queue engine.ticket).2, ← Option.some.inj taken]
    · intro other apart
      dsimp only [setQueue]
      rw [task_modify, if_neg (Ne.symm apart)]

theorem silent_leadsTo {before after : Engine α} (leads : before.LeadsTo QueueEvent.Silent after)
    (unheard : before.witness = none) :
    after.witness = none ∧ after.arrivals = before.arrivals := by
  refine LeadsTo.preserves
    (fun engine => engine.witness = none ∧ engine.arrivals = before.arrivals)
    (fun engine event silent held => ?_) leads ⟨unheard, rfl⟩
  obtain ⟨still, same⟩ := held
  have other (index : Nat) (hit : Hit) : event ≠ .enqueue index hit := by
    rintro rfl
    exact silent
  obtain ⟨news, written, came, _⟩ := silent_after (.inr still) other
  constructor
  · by_cases lends : ∃ witness, event = .lend witness
    · obtain ⟨witness, rfl⟩ := lends
      cases witness with
      | none => rfl
      | some index => exact silent.elim
    · exact (engine.witness_after fun witness same => lends ⟨witness, same⟩).trans still
  · rw [← same]
    simp only [arrivals, written, List.filterMap_append, came, List.append_nil]

end Engine

end Telemetry
