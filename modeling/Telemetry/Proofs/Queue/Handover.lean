import Telemetry.Proofs.Queue.Tally

/-! One queue with one loop, whatever callers and the courier do. The queue holds the last hits since
the last drain, as many as there is room for; whoever flushes next hands over exactly these. So every
hit that came in waits, or is handed over once, or was pushed out of the full queue. -/

namespace Telemetry

open Journal

namespace Processor

variable {config : QueueConfig} {courier : Courier} {world : World} {past : List ProcessorEvent}
  {task : Task Unit} {loop : HitLoop}

/-! ### All events of the past -/

/-- What holds of a processor after the events of the past. -/
structure Keeps (config : QueueConfig) (courier : Courier) (world : World)
    (past : List ProcessorEvent) (task : Task Unit) (loop : HitLoop) : Prop where
  lone : Lone (run config courier world past) task loop
  manned : (run config courier world past).outbox.couriers.length = 1
  configured : task.queue.config = config
  closed : task.queue.closed = true ↔ .shutdown ∈ past
  covers : (tallyOf config courier world past).Covers (max 1 config.maxQueueSize) task.queue.hits
    (run config courier world past).outbox.journal
  overflowed : ∀ hit ∈ dropped 0 (run config courier world past).outbox.journal,
    Overflowed config courier world past hit
  handed : handedOver config courier world past =
    (tallyOf config courier world past).batches (max 1 config.maxQueueSize)
  sent : (sentOrHeld (run config courier world past).outbox.journal loop).Perm
    (handedOver config courier world past)
  balanced : (run config courier world past).Balanced
  numbered : (run config courier world past).Numbered

theorem keeps_launched (config : QueueConfig) (courier : Courier) (world : World) :
    Keeps config courier world [] { owner := (), queue := { config }, loops := [{ turn := 0 }] }
      { turn := 0 } := by
  have blank : ({ outbox := { couriers := [courier], world } } : Engine Unit).Balanced := by
    intro queue hit
    rfl
  constructor
  · exact lone_launched config courier world
  · rfl
  · rfl
  · simp
  · constructor
    · rfl
    · rfl
    · exact (List.rdrop_nil _).symm
    · rfl
  · exact List.forall_mem_nil _
  · rfl
  · exact .refl _
  · exact (blank.add () 0 config).start 0
  · exact ⟨.nil, List.forall_mem_nil _⟩

theorem Keeps.next (keeps : Keeps config courier world past task loop) (next : ProcessorEvent) :
    ∃ after later, Keeps config courier world (past ++ [next]) after later ∧
      Turn (run config courier world past) task loop next
        (run config courier world (past ++ [next])) after later := by
  obtain ⟨after, later, lone, turn⟩ := keeps.lone.turn next
  rw [← run_snoc] at lone turn
  have capacity : task.queue.capacity = max 1 config.maxQueueSize := by
    rw [HitQueue.capacity, keeps.configured]
  have covers := keeps.covers
  rw [← capacity] at covers
  refine ⟨after, later, ?_, turn⟩
  constructor
  · exact lone
  · exact turn.grows.2.trans keeps.manned
  · exact turn.config.trans keeps.configured
  · rw [turn.closed, keeps.closed]
    simp [eq_comm]
  · rw [tallyOf_snoc, ← capacity]
    exact turn.covers keeps.lone covers
  · intro hit gone
    rcases turn.lost gone with old | ⟨other, rfl, full, first⟩
    · exact (keeps.overflowed hit old).later next
    · exact ⟨past, other, [], task, rfl, keeps.lone.alone, full, first⟩
  · have held : (run config courier world past).waiting =
        latest (max 1 config.maxQueueSize) (tallyOf config courier world past).current := by
      rw [keeps.lone.waiting, ← capacity]
      exact covers.held
    rw [handedOver_snoc, tallyOf_snoc, keeps.handed, Tally.batches_next _ held]
  · rw [handedOver_snoc, turn.handed keeps.lone, List.append_assoc]
    -- the batch in the hands of the loop may have been drained before the fresh one
    refine (List.perm_append_comm.append_left _).trans ?_
    rw [← List.append_assoc]
    exact keeps.sent.append_right _
  · rw [run_snoc]
    exact keeps.balanced.after _
  · rw [run_snoc]
    exact keeps.numbered.after _

theorem keeps (config : QueueConfig) (courier : Courier) (world : World)
    (past : List ProcessorEvent) :
    ∃ task loop, Keeps config courier world past task loop := by
  induction past using List.reverseRecOn with
  | nil => exact ⟨_, _, keeps_launched config courier world⟩
  | append_singleton past next ih =>
      obtain ⟨task, loop, held⟩ := ih
      obtain ⟨after, later, reached, _⟩ := held.next next
      exact ⟨after, later, reached⟩

theorem journal_later (config : QueueConfig) (courier : Courier) (world : World)
    (past later : List ProcessorEvent) :
    ∃ news, (run config courier world (past ++ later)).outbox.journal =
      (run config courier world past).outbox.journal ++ news := by
  induction later using List.reverseRecOn with
  | nil => exact ⟨[], by simp⟩
  | append_singleton later next ih =>
      obtain ⟨news, written⟩ := ih
      obtain ⟨task, loop, held⟩ := keeps config courier world (past ++ later)
      obtain ⟨_, _, _, turn⟩ := held.next next
      obtain ⟨more, added⟩ := turn.grows.1
      refine ⟨news ++ more, ?_⟩
      rw [← List.append_assoc, added, written, List.append_assoc]

/-! ### The order of the journal -/

/-- Whenever a caller has flushed the queue, the loop had no batch in its hands. -/
def WholeFlushes (config : QueueConfig) (courier : Courier) (world : World)
    (past : List ProcessorEvent) : Prop :=
  ∀ before later, past = before ++ .flush :: later →
    ∀ task ∈ (run config courier world before).tasks, task.outstanding = []

theorem WholeFlushes.earlier {next : ProcessorEvent}
    (whole : WholeFlushes config courier world (past ++ [next])) :
    WholeFlushes config courier world past := by
  intro before later same
  apply whole before (later ++ [next])
  rw [same, List.append_assoc]
  rfl

theorem WholeFlushes.idle (whole : WholeFlushes config courier world (past ++ [.flush]))
    (lone : Lone (run config courier world past) task loop) : loop.stage.batch? = none := by
  have member : task ∈ (run config courier world past).tasks := by
    rw [lone.alone]
    exact List.mem_singleton_self task
  have none := whole past [] rfl task member
  unfold Task.outstanding at none
  rw [lone.single] at none
  cases holds : loop.stage.batch? with
  | none => rfl
  | some batch => simp [holds] at none

/-- Where no caller flushes into a flush of the loop, the batches stand in the journal in the order in
which they were handed over. -/
theorem WholeFlushes.journal_ordered (whole : WholeFlushes config courier world past)
    (lone : Lone (run config courier world past) task loop) :
    sentOrHeld (run config courier world past).outbox.journal loop =
      handedOver config courier world past := by
  induction past using List.reverseRecOn generalizing task loop with
  | nil =>
      rw [lone.unique (lone_launched config courier world)]
      rfl
  | append_singleton past next ih =>
      obtain ⟨before, earlier, held⟩ := keeps config courier world past
      obtain ⟨after, later, reached, turn⟩ := held.next next
      rw [lone.unique reached.lone, turn.handed held.lone, handedOver_snoc,
        ← ih whole.earlier held.lone]
      unfold sentOrHeld
      rcases held.lone.drains next with nothing | idle | rfl
      · rw [nothing, List.append_nil, List.append_nil]
      · simp [idle]
      · simp [whole.idle held.lone]

/-! ### What becomes of a hit -/

theorem Keeps.nodup (keeps : Keeps config courier world past task loop) :
    (accepted 0 (run config courier world past).outbox.journal).Nodup :=
  List.nodup_iff_count_le_one.mpr (keeps.numbered.count_le_one 0)

theorem Keeps.complete (keeps : Keeps config courier world past task loop) :
    (dropped 0 (run config courier world past).outbox.journal ++
        (handedOver config courier world past).flatten ++ task.queue.hits).Perm
      (accepted 0 (run config courier world past).outbox.journal) := by
  rw [List.perm_iff_count]
  intro hit
  have sum := keeps.balanced 0 hit
  have once := keeps.sent.flatten.count_eq hit
  have carried : loop.carried = loop.stage.batch?.toList.flatten := by
    unfold HitLoop.carried
    cases loop.stage.batch? with
    | none => rfl
    | some batch => simp
  simp only [Engine.holding, keeps.lone.found, Option.elim_some, Task.holding, keeps.lone.single,
    total_cons, total_nil, carried] at sum
  simp only [sentOrHeld, List.flatten_append, List.count_append] at once
  simp only [List.count_append]
  omega

/-- A batch that was sent is sent once, whatever the answer was, and none of its hits comes back. -/
theorem Keeps.sent_once (keeps : Keeps config courier world past task loop) {courierIndex : Nat}
    {batch : List QueuedHit} {answer : Answer}
    (sent : .sent 0 courierIndex batch answer ∈ (run config courier world past).outbox.journal)
    {hit : QueuedHit} (member : hit ∈ batch) :
    hit ∉ task.queue.hits ∧ hit ∉ dropped 0 (run config courier world past).outbox.journal ∧
      (handedOver config courier world past).flatten.count hit = 1 := by
  have among : batch ∈ handedOver config courier world past := by
    apply keeps.sent.mem_iff.mp
    apply List.mem_append_left
    refine List.mem_map.mpr ⟨(0, batch), List.mem_filter.mpr ⟨?_, rfl⟩, rfl⟩
    exact List.mem_filterMap.mpr ⟨_, sent, rfl⟩
  have some := List.count_pos_iff.mpr (List.mem_flatten.mpr ⟨batch, among, member⟩)
  have once := List.nodup_iff_count_le_one.mp keeps.nodup hit
  have sum := (List.perm_iff_count.mp keeps.complete) hit
  simp only [List.count_append] at sum
  refine ⟨List.count_eq_zero.mp ?_, List.count_eq_zero.mp ?_, ?_⟩
  · omega
  · omega
  · omega

/-! ### Handing over -/

/-- How the hits are handed over that wait after the events of the past. -/
structure Hands (config : QueueConfig) (courier : Courier) (world : World)
    (past : List ProcessorEvent) (task : Task Unit) (loop : HitLoop) : Prop where
  /-- A caller that flushes sends them as one batch; if there are none, nothing is sent. -/
  byCaller : (run config courier world (past ++ [.flush])).outbox =
    if task.queue.hits.isEmpty then (run config courier world past).outbox
    else ((run config courier world past).outbox.deliver 0 0 task.queue.hits).2
  /-- The loop takes them as one batch; if there are none, it takes none. -/
  byLoop : loop.stage.isFlushing = true → ∃ after later,
    Lone (run config courier world (past ++ [.step])) after later ∧ after.queue.hits = [] ∧
      later.stage.batch?.toList = [task.queue.hits].filter (!·.isEmpty) ∧
      (run config courier world (past ++ [.step])).outbox = (run config courier world past).outbox
  pending : ∀ batch, loop.stage.batch? = some batch → ∀ meanwhile, .step ∉ meanwhile →
    ∃ late, (run config courier world (past ++ meanwhile ++ [.step])).outbox =
      ((run config courier world (past ++ meanwhile)).outbox.deliver 0 0 batch).2.log late

theorem Turn.flushed {engine after : Engine Unit} {changed : Task Unit} {later : HitLoop}
    (turn : Turn engine task loop .flush after changed later) :
    after.outbox = if task.queue.hits.isEmpty then engine.outbox
      else (engine.outbox.deliver 0 0 task.queue.hits).2 := by
  cases turn with
  | emptied config closed hits stirred outbox => exact outbox

theorem Turn.keeps_batch {engine after : Engine Unit} {changed : Task Unit} {later : HitLoop}
    {next : ProcessorEvent} (turn : Turn engine task loop next after changed later)
    (other : next ≠ .step) : later.stage.batch? = loop.stage.batch? := by
  cases turn with
  | refused => rfl
  | entered opened taken answer config closed hits stirred => exact stirred.batch
  | emptied config closed hits stirred => exact stirred.batch
  | shut config closed hits stirred => exact stirred.batch
  | passed => rfl
  | rested => exact absurd rfl other
  | moved => exact absurd rfl other

theorem Turn.sends_batch {engine after : Engine Unit} {changed : Task Unit} {later : HitLoop}
    {batch : List QueuedHit} (lone : Lone engine task loop)
    (turn : Turn engine task loop .step after changed later)
    (holds : loop.stage.batch? = some batch) :
    ∃ late, after.outbox = (engine.outbox.deliver 0 0 batch).2.log late := by
  have logged : ∃ late, (task.deliver loop 0 engine.outbox).2 =
      (engine.outbox.deliver 0 0 batch).2.log late := by
    unfold Task.deliver
    simp only [holds, lone.courier]
    split
    · exact ⟨_, rfl⟩
    · refine ⟨[], ?_⟩
      unfold Outbox.log Outbox.note
      rw [List.map_nil, List.append_nil]
  cases turn with
  | rested stays =>
      cases stage : loop.stage with
      | sending stop held =>
          unfold HitLoop.step at stays
          rw [stage] at stays
          dsimp only at stays
          split at stays <;> cases stays
      | _ =>
          rw [stage] at holds
          cases holds
  | moved moves outbox =>
      rw [outbox]
      exact logged

theorem Keeps.pending (keeps : Keeps config courier world past task loop) (batch : List QueuedHit)
    (holds : loop.stage.batch? = some batch) (meanwhile : List ProcessorEvent)
    (other : .step ∉ meanwhile) :
    ∃ after later, Keeps config courier world (past ++ meanwhile) after later ∧
      later.stage.batch? = some batch := by
  induction meanwhile using List.reverseRecOn with
  | nil =>
      rw [List.append_nil]
      exact ⟨task, loop, keeps, holds⟩
  | append_singleton meanwhile next ih =>
      obtain ⟨after, later, held, still⟩ :=
        ih fun member => other (List.mem_append_left _ member)
      obtain ⟨last, resumed, reached, turn⟩ := held.next next
      rw [List.append_assoc] at reached
      refine ⟨last, resumed, reached, ?_⟩
      rw [turn.keeps_batch, still]
      intro same
      exact other (List.mem_append_right _ (same ▸ List.mem_singleton_self next))

theorem Keeps.hands (keeps : Keeps config courier world past task loop) :
    Hands config courier world past task loop := by
  constructor
  · obtain ⟨_, _, _, turn⟩ := keeps.next .flush
    exact turn.flushed
  · intro flushing
    obtain ⟨after, later, reached, turn⟩ := keeps.next .step
    refine ⟨after, later, reached.lone, ?_⟩
    generalize run config courier world (past ++ [.step]) = engine at turn
    cases turn with
    | rested stays => cases (HitLoop.not_flushing_of_rests stays).symm.trans flushing
    | moved moves outbox =>
        have hands := HitLoop.hands_step moves
        rw [if_pos flushing] at hands
        refine ⟨hands.1, hands.2, ?_⟩
        rw [outbox, Task.deliver_none (Stage.batch?_of_isFlushing flushing)]
  · intro batch holds meanwhile other
    obtain ⟨after, later, held, still⟩ := keeps.pending batch holds meanwhile other
    obtain ⟨_, _, _, turn⟩ := held.next .step
    exact turn.sends_batch held.lone still

/-- Callers, the loop and the courier may do what they like. The queue holds the last hits since the
last drain, and whoever flushes next hands over exactly these. Every hit is handed over once at most,
in the order in which the hits came in; those that never are were pushed out of the full queue, each
with one warning. What was sent is not sent again, and after a shutdown nothing comes in. Batches
are sent in the order in which they were handed over, unless a caller flushes while the loop has a
batch in its hands. -/
theorem latest_handed_over_once (config : QueueConfig) (courier : Courier) (world : World)
    (past : List ProcessorEvent) :
    ∃ task loop, Keeps config courier world past task loop ∧
      Hands config courier world past task loop ∧
      (accepted 0 (run config courier world past).outbox.journal).Nodup ∧
      (dropped 0 (run config courier world past).outbox.journal ++
          (handedOver config courier world past).flatten ++ task.queue.hits).Perm
        (accepted 0 (run config courier world past).outbox.journal) ∧
      (handedOver config courier world past).flatten.Sublist
        (accepted 0 (run config courier world past).outbox.journal) ∧
      (WholeFlushes config courier world past →
        sentOrHeld (run config courier world past).outbox.journal loop =
          handedOver config courier world past) ∧
      (∀ before later batch answer, past = before ++ later →
        .sent 0 0 batch answer ∈ (run config courier world before).outbox.journal → ∀ hit ∈ batch,
          hit ∉ task.queue.hits ∧ hit ∉ dropped 0 (run config courier world past).outbox.journal ∧
          (handedOver config courier world past).flatten.count hit = 1) ∧
      ∀ hit, (.shutdown ∈ past → (run config courier world past).enqueue 0 hit =
          (.error .closed, run config courier world past)) ∧
        (.shutdown ∉ past → ((run config courier world past).enqueue 0 hit).1 = .ok ()) := by
  obtain ⟨task, loop, held⟩ := keeps config courier world past
  refine ⟨task, loop, held, held.hands, held.nodup, held.complete, ?_, ?_, ?_, ?_⟩
  · rw [held.handed, held.covers.came]
    exact (tallyOf config courier world past).batches_sublist
  · exact fun whole => whole.journal_ordered held.lone
  · intro before later batch answer same sent hit member
    obtain ⟨news, written⟩ := journal_later config courier world before later
    have still : .sent 0 0 batch answer ∈ (run config courier world past).outbox.journal := by
      rw [same, written]
      exact List.mem_append_left _ sent
    exact held.sent_once still member
  · intro hit
    rcases (run config courier world past).enqueue_cases 0 hit with
      ⟨refused, closed⟩ | ⟨other, room, found, opened, taken, result⟩
    · have shut := held.closed.mp (closed task held.lone.found)
      exact ⟨fun _ => refused, absurd shut⟩
    · obtain rfl : task = other := Option.some.inj (held.lone.found.symm.trans found)
      refine ⟨fun shut => ?_, fun _ => by rw [result]⟩
      cases opened.symm.trans (held.closed.mpr shut)

end Processor

end Telemetry
