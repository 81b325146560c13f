import Mathlib.Data.List.DropRight
import Telemetry.Proofs.Queue.Wakeup

/-! A full queue gives up its oldest hit for a new one and logs that. Nothing else is logged as an
overflow, so the warnings of the log are those of the queue. -/

namespace Telemetry

open Journal

theorem rtake_min {α : Type} (items : List α) (count : Nat) :
    items.rtake (min items.length count) = items.rtake count := by
  unfold List.rtake
  congr 1
  omega

theorem rtake_succ_cases {α : Type} (items : List α) (count : Nat) :
    (items.length ≤ count ∧ items.rtake (count + 1) = items ∧ items.rtake count = items ∧
        items.rdrop (count + 1) = [] ∧ items.rdrop count = []) ∨
      ∃ oldest, count < items.length ∧
        items.rtake (count + 1) = oldest :: items.rtake count ∧
        items.rdrop count = items.rdrop (count + 1) ++ [oldest] := by
  unfold List.rtake List.rdrop
  by_cases short : items.length ≤ count
  · have none : items.length - count = 0 := by omega
    have fewer : items.length - (count + 1) = 0 := by omega
    rw [none, fewer]
    exact .inl ⟨short, rfl, rfl, rfl, rfl⟩
  · have inside : items.length - (count + 1) < items.length := by omega
    have next : items.length - count = items.length - (count + 1) + 1 := by omega
    refine .inr ⟨items[items.length - (count + 1)], by omega, ?_, ?_⟩
    · rw [next]
      exact List.drop_eq_getElem_cons inside
    · rw [next]
      exact List.take_succ_eq_append_getElem inside

namespace HitQueue

variable {queue : HitQueue} {added oldest : QueuedHit} {others came : List QueuedHit}
  {room : Accepted}

theorem makeRoom_spare (spare : queue.hits.length < queue.capacity) :
    queue.makeRoom = ⟨none, queue⟩ := by
  unfold makeRoom
  split
  · exact if_neg (Nat.not_le.mpr spare)
  · rfl

theorem makeRoom_full (held : queue.hits = oldest :: others)
    (full : queue.capacity ≤ queue.hits.length) :
    queue.makeRoom = ⟨some oldest, { queue with hits := others }⟩ := by
  unfold makeRoom
  split
  · rename_i first rest found
    rw [held] at found
    cases found
    exact if_pos full
  · rename_i empty
    rw [held] at empty
    cases empty

theorem enqueue_taken (taken : queue.enqueue added = some room) :
    room.dropped = queue.makeRoom.dropped ∧ room.queue.hits = queue.makeRoom.queue.hits ++ [added] ∧
      room.queue.closed = queue.closed := by
  unfold enqueue at taken
  split at taken
  · cases taken
  · cases taken
    obtain ⟨hits, kept⟩ := queue.makeRoom_eq
    simp only [kept, and_self]

theorem enqueue_latest (taken : queue.enqueue added = some room)
    (latest : queue.hits = came.rtake queue.capacity) :
    room.queue.hits = (came ++ [added]).rtake queue.capacity ∧
      (came ++ [added]).rdrop queue.capacity =
        came.rdrop queue.capacity ++ room.dropped.toList := by
  have positive : 1 ≤ queue.capacity := Nat.le_max_left 1 _
  obtain ⟨count, capacity⟩ : ∃ count, queue.capacity = count + 1 :=
    ⟨queue.capacity - 1, by omega⟩
  obtain ⟨dropped, hits, _⟩ := enqueue_taken taken
  rw [capacity] at latest ⊢
  rw [dropped, hits, List.rtake_concat_succ, List.rdrop_concat_succ]
  rcases rtake_succ_cases came count with
    ⟨short, all, less, none, rest⟩ | ⟨oldest, long, more, rest⟩
  · have spare : queue.hits.length < queue.capacity := by
      rw [latest, all, capacity]
      omega
    rw [makeRoom_spare spare, latest, all, less, none, rest]
    exact ⟨rfl, rfl⟩
  · have full : queue.capacity ≤ queue.hits.length := by
      rw [latest, capacity]
      unfold List.rtake
      rw [List.length_drop]
      omega
    rw [makeRoom_full (latest.trans more) full, rest]
    exact ⟨rfl, rfl⟩

end HitQueue

def LogEvent.overflow? : LogEvent → Option HitKind
  | .hitDropped kind => some kind
  | _ => none

namespace Journal

def overflows (journal : List Happening) : List HitKind :=
  (journal.filterMap Happening.logged?).filterMap LogEvent.overflow?

@[simp] theorem overflows_append (first second : List Happening) :
    overflows (first ++ second) = overflows first ++ overflows second := by
  simp only [overflows, List.filterMap_append]

theorem overflows_logged (events : List LogEvent) :
    overflows (events.map .logged) = events.filterMap LogEvent.overflow? := by
  unfold overflows
  rw [List.filterMap_map]
  congr 1
  exact List.filterMap_some

theorem accounts_ofArrival (journal : List Happening) (lost : Option QueuedHit)
    (hit : QueuedHit) :
    accepted 0 (journal ++ ofArrival 0 lost hit) = accepted 0 journal ++ [hit] ∧
      dropped 0 (journal ++ ofArrival 0 lost hit) = dropped 0 journal ++ lost.toList ∧
      answered 0 (journal ++ ofArrival 0 lost hit) = answered 0 journal := by
  obtain ⟨came, went, delivered⟩ := entries_ofArrival 0 lost hit
  rw [accepted_append, dropped_append, answered_append, accepted, accepted, dropped, dropped,
    answered, answered, came, went, delivered, about_own, about_own, about_nil, List.append_nil]
  exact ⟨rfl, rfl, rfl⟩

theorem overflows_ofArrival (index : Nat) (lost : Option QueuedHit) (hit : QueuedHit) :
    overflows (ofArrival index lost hit) = lost.toList.map (·.hit.kind) := by
  cases lost with
  | none => rfl
  | some oldest => rfl

end Journal

theorem retryFrom_overflows {σ ε α : Type} [Retryable ε] (policy : RetryPolicy)
    (backoff : Nat → Option Duration) (call : σ → Except ε α × σ) (attempt further : Nat)
    (before : σ) :
    (retryFrom policy backoff call attempt further before).log.filterMap LogEvent.overflow? =
      [] := by
  induction further generalizing attempt before with
  | zero =>
      rw [retryFrom]
      rcases call before with ⟨failure | value, state⟩
      · dsimp only
        split <;> rfl
      · rfl
  | succ further ih =>
      rw [retryFrom]
      rcases call before with ⟨failure | value, state⟩
      · dsimp only
        split
        · rfl
        · split
          · rfl
          · rfl
          · exact ih (attempt + 1) state
      · rfl

theorem HttpSender.sendGroups_overflows (sender : HttpSender) (calendar : Calendar)
    (groups : List (List QueuedHit)) (collector : Collector) :
    (sender.sendGroups calendar groups collector).log.filterMap LogEvent.overflow? = [] := by
  have one (calendar : Calendar) (group : List QueuedHit) (collector : Collector) :
      (sender.sendGroup calendar group collector).log.filterMap LogEvent.overflow? = [] :=
    retryFrom_overflows _ _ _ _ _ _
  induction groups generalizing calendar collector with
  | nil => rfl
  | cons group rest ih =>
      unfold sendGroups
      dsimp only
      split
      · simp only [List.filterMap_append, one, ih, List.append_nil]
      · exact one calendar group collector

theorem Courier.deliver_overflows (courier : Courier) (calendar : Calendar)
    (batch : List QueuedHit) :
    (courier.deliver calendar batch).log.filterMap LogEvent.overflow? = [] := by
  cases courier with
  | scripted answers => rfl
  | http sender collector => exact sender.sendGroups_overflows calendar _ collector

/-- Batches of the first queue were sent, and nothing else is in the accounts. -/
structure Journal.Sends (before after : List Happening) (batches : List (List QueuedHit)) :
    Prop where
  grows : ∃ news, after = before ++ news
  came : accepted 0 after = accepted 0 before
  lost : dropped 0 after = dropped 0 before
  warned : overflows after = overflows before
  handed : answered 0 after = answered 0 before ++ batches

theorem Journal.Sends.nothing (journal : List Happening) : Sends journal journal [] := by
  constructor
  · exact ⟨[], (List.append_nil journal).symm⟩
  · rfl
  · rfl
  · rfl
  · exact (List.append_nil _).symm

theorem Journal.Sends.of_delivery {before after : List Happening} {courier : Nat}
    {batch : List QueuedHit} {answer : Answer} {early late : List LogEvent}
    (written : after = before ++ ofDelivery 0 courier batch answer early late)
    (quiet : overflows after = overflows before) : Sends before after [batch] := by
  obtain ⟨came, went, delivered⟩ := entries_ofDelivery 0 courier batch answer early late
  constructor
  · exact ⟨_, written⟩
  · rw [written, accepted_append, accepted, accepted, came, about_nil, List.append_nil]
  · rw [written, dropped_append, dropped, dropped, went, about_nil, List.append_nil]
  · exact quiet
  · rw [written, answered_append, answered, answered, delivered, about_own]

theorem Outbox.overflows_deliver (outbox : Outbox) (queue courier : Nat)
    (batch : List QueuedHit) :
    overflows (outbox.deliver queue courier batch).2.journal = overflows outbox.journal := by
  unfold deliver
  split
  · exact (overflows_append _ _).trans (List.append_nil _)
  · rename_i found _
    simp only [log, note, overflows_append, overflows_logged, found.deliver_overflows,
      List.append_nil]
    exact List.append_nil _

theorem Outbox.sends_deliver (outbox : Outbox) (courier : Nat) (batch : List QueuedHit) :
    Sends outbox.journal (outbox.deliver 0 courier batch).2.journal [batch] := by
  obtain ⟨early, written⟩ := outbox.journal_deliver 0 courier batch
  exact .of_delivery written (outbox.overflows_deliver 0 courier batch)

theorem Task.sends_deliver {α : Type} (task : Task α) (loop : HitLoop) (outbox : Outbox) :
    Sends outbox.journal (task.deliver loop 0 outbox).2.journal loop.stage.batch?.toList := by
  cases holds : loop.stage.batch? with
  | none =>
      rw [Task.deliver_none holds]
      exact .nothing _
  | some batch =>
      obtain ⟨early, late, written⟩ := task.journal_deliver 0 outbox holds
      apply Sends.of_delivery written
      have quiet := outbox.overflows_deliver 0 task.courier batch
      unfold Task.deliver
      simp only [holds]
      split
      · exact ((overflows_append _ _).trans (List.append_nil _)).trans quiet
      · exact quiet

theorem Outbox.couriers_deliver (outbox : Outbox) (queue courier : Nat)
    (batch : List QueuedHit) :
    (outbox.deliver queue courier batch).2.couriers.length = outbox.couriers.length := by
  unfold deliver
  split
  · rfl
  · exact List.length_set

theorem Task.couriers_deliver {α : Type} (task : Task α) (loop : HitLoop) (index : Nat)
    (outbox : Outbox) :
    (task.deliver loop index outbox).2.couriers.length = outbox.couriers.length := by
  unfold deliver
  split
  · rfl
  · rename_i batch _
    have same := outbox.couriers_deliver index task.courier batch
    dsimp only
    split
    · exact same
    · exact same

end Telemetry
