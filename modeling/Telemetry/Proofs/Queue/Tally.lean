import Telemetry.Proofs.Queue.Overflow
import Telemetry.Proofs.Queue.Turnover

/-! The queue by its drains. Between two drains hits come in one after the other, and the queue
holds the last of them, as many as there is room for. The drain hands these over as one batch; the
others were pushed out by later ones, each with a warning. -/

namespace Telemetry

open Journal

/-! ### One step of a loop -/

namespace HitLoop

variable {loop : HitLoop} {queue : HitQueue} {now ticket : Nat} {answer : Answer}
  {result : HitQueue × HitLoop}

theorem batch_wait : (loop.wait queue now ticket).2.stage.batch? = none := by
  unfold wait
  split <;> rfl

theorem batch_finish (stop : Bool) :
    (loop.finish queue now ticket stop).2.stage.batch? = none := by
  unfold finish
  split
  · rfl
  · exact batch_wait

/-- A loop that is about to take the hits takes all of them; after any other step it has none in
its hands. -/
theorem hands_step (moved : loop.step queue now ticket answer = some result) :
    if loop.stage.isFlushing then
      result.1.hits = [] ∧ result.2.stage.batch?.toList = [queue.hits].filter (!·.isEmpty)
    else result.1.hits = queue.hits ∧ result.2.stage.batch? = none := by
  unfold step at moved
  split at moved
  · cases moved
  · cases moved
  · rename_i fresh
    cases moved
    rw [fresh]
    exact ⟨hits_wait _ _ _ _, batch_wait⟩
  · rename_i waits
    split at moved
    · cases moved
      rw [waits]
      exact ⟨rfl, rfl⟩
    · cases moved
  · rename_i woken
    cases moved
    rw [woken]
    exact ⟨rfl, rfl⟩
  · rename_i stop saw
    rw [saw]
    dsimp only at moved
    split at moved
    · rename_i empty
      cases moved
      have none : queue.hits.isEmpty = true := empty
      constructor
      · exact hits_finish _ _ _ _ _
      · simp [batch_finish, none]
    · rename_i some
      cases moved
      have present : ¬queue.hits.isEmpty = true := some
      constructor
      · rfl
      · simp [Stage.batch?, HitQueue.drain, present]
  · rename_i stop batch handed
    rw [handed]
    split at moved
    · cases moved
      exact ⟨rfl, rfl⟩
    · cases moved
      exact ⟨hits_finish _ _ _ _ _, batch_finish _⟩

end HitLoop

theorem HitLoop.not_flushing_of_rests {loop : HitLoop} {queue : HitQueue} {now ticket : Nat}
    {answer : Answer} (rests : loop.step queue now ticket answer = none) :
    loop.stage.isFlushing = false := by
  unfold step at rests
  split at rests
  · rename_i stage
    rw [stage]
    rfl
  · rename_i stage
    rw [stage]
    rfl
  · cases rests
  · rename_i stage
    rw [stage]
    rfl
  · cases rests
  · dsimp only at rests
    split at rests <;> cases rests
  · split at rests <;> cases rests

def Engine.takes (engine : Engine Unit) : Bool :=
  engine.tasks.any (·.loops.any (·.stage.isFlushing))

def Engine.waiting (engine : Engine Unit) : List QueuedHit :=
  engine.tasks.flatMap (·.queue.hits)

namespace Processor

theorem Lone.takes {engine : Engine Unit} {task : Task Unit} {loop : HitLoop}
    (lone : Lone engine task loop) : engine.takes = loop.stage.isFlushing := by
  unfold Engine.takes
  rw [lone.alone, List.any_cons, List.any_nil, Bool.or_false, lone.single, List.any_cons,
    List.any_nil, Bool.or_false]

theorem Lone.waiting {engine : Engine Unit} {task : Task Unit} {loop : HitLoop}
    (lone : Lone engine task loop) : engine.waiting = task.queue.hits := by
  unfold Engine.waiting
  rw [lone.alone, List.flatMap_cons, List.flatMap_nil, List.append_nil]

theorem Lone.unique {engine : Engine Unit} {task other : Task Unit} {loop last : HitLoop}
    (lone : Lone engine task loop) (again : Lone engine other last) : loop = last := by
  have same := lone.alone.symm.trans again.alone
  rw [List.cons.injEq] at same
  have loops := lone.single.symm.trans ((congrArg Task.loops same.1).trans again.single)
  rw [List.cons.injEq] at loops
  exact loops.1

/-! ### Handing over -/

/-- The batch that an event takes from the queue to hand it over; where nothing waits there is
none. A caller sends it at once, the loop at its next step. -/
def drainedBy (engine : Engine Unit) : ProcessorEvent → List (List QueuedHit)
  | .flush => [engine.waiting].filter (!·.isEmpty)
  | .step => if engine.takes then [engine.waiting].filter (!·.isEmpty) else []
  | .enqueue _ | .shutdown | .pass _ => []

theorem Lone.drains {engine : Engine Unit} {task : Task Unit} {loop : HitLoop}
    (lone : Lone engine task loop) (next : ProcessorEvent) :
    drainedBy engine next = [] ∨ loop.stage.batch? = none ∨ next = .flush := by
  cases next with
  | enqueue hit => exact .inl rfl
  | flush => exact .inr (.inr rfl)
  | step =>
      rw [drainedBy, lone.takes]
      split
      · rename_i flushing
        exact .inr (.inl (Stage.batch?_of_isFlushing flushing))
      · exact .inl rfl
  | shutdown => exact .inl rfl
  | pass milliseconds => exact .inl rfl

def handedFrom (engine : Engine Unit) : List ProcessorEvent → List (List QueuedHit)
  | [] => []
  | next :: rest => drainedBy engine next ++ handedFrom (engine.after (event next)) rest

/-- The batches that were handed over, in the order of the drains. -/
def handedOver (config : QueueConfig) (courier : Courier) (world : World)
    (past : List ProcessorEvent) : List (List QueuedHit) :=
  handedFrom (launched config courier world) past

theorem handedFrom_snoc (engine : Engine Unit) (past : List ProcessorEvent)
    (next : ProcessorEvent) :
    handedFrom engine (past ++ [next]) =
      handedFrom engine past ++ drainedBy (engine.course (past.map event)) next := by
  induction past generalizing engine with
  | nil => exact List.append_nil _
  | cons first rest ih =>
      simp only [List.cons_append, handedFrom, ih, List.append_assoc]
      rfl

theorem handedOver_snoc (config : QueueConfig) (courier : Courier) (world : World)
    (past : List ProcessorEvent) (next : ProcessorEvent) :
    handedOver config courier world (past ++ [next]) =
      handedOver config courier world past ++ drainedBy (run config courier world past) next :=
  handedFrom_snoc (launched config courier world) past next

/-- The batches that were sent, in the order of the journal, and the one in the hands of the
loop. -/
def sentOrHeld (journal : List Happening) (loop : HitLoop) : List (List QueuedHit) :=
  answered 0 journal ++ loop.stage.batch?.toList

/-! ### The tally -/

/-- The hits that a queue took: those before each of its drains, and those after the last. -/
structure Tally where
  ended : List (List QueuedHit) := []
  current : List QueuedHit := []

/-- The last of the hits, as many as there is room for. -/
def latest (room : Nat) (came : List QueuedHit) : List QueuedHit :=
  came.rtake (min came.length room)

namespace Tally

def drain (tally : Tally) : Tally where
  ended := tally.ended ++ [tally.current]

def next (tally : Tally) (engine : Engine Unit) : ProcessorEvent → Tally
  | .enqueue hit =>
      match (engine.enqueue 0 hit).1 with
      | .ok () => { tally with current := tally.current ++ [engine.stamped hit] }
      | .error _ => tally
  | .flush => tally.drain
  | .step => if engine.takes then tally.drain else tally
  | .shutdown | .pass _ => tally

def all (tally : Tally) : List QueuedHit := tally.ended.flatten ++ tally.current

/-- The batches that the drains hand over; where nothing waits there is none. -/
def batches (room : Nat) (tally : Tally) : List (List QueuedHit) :=
  (tally.ended.map (latest room)).filter (!·.isEmpty)

def lost (room : Nat) (tally : Tally) : List QueuedHit :=
  tally.ended.flatMap (·.rdrop room) ++ tally.current.rdrop room

structure Covers (room : Nat) (tally : Tally) (hits : List QueuedHit)
    (journal : List Happening) : Prop where
  came : accepted 0 journal = tally.all
  held : hits = latest room tally.current
  lost : dropped 0 journal = tally.lost room
  warned : overflows journal = (dropped 0 journal).map (·.hit.kind)

variable {room : Nat} {tally : Tally} {hits : List QueuedHit} {journal after : List Happening}
  {batches : List (List QueuedHit)}

theorem batches_drain (tally : Tally) :
    tally.drain.batches room = tally.batches room ++
      [latest room tally.current].filter (!·.isEmpty) := by
  simp only [Tally.batches, drain, List.map_append, List.map_cons, List.map_nil,
    List.filter_append]

theorem batches_next (tally : Tally) {engine : Engine Unit}
    (held : engine.waiting = latest room tally.current) (next : ProcessorEvent) :
    (tally.next engine next).batches room = tally.batches room ++ drainedBy engine next := by
  cases next with
  | enqueue hit =>
      simp only [Tally.next]
      split
      · exact (List.append_nil _).symm
      · exact (List.append_nil _).symm
  | flush =>
      simp only [Tally.next, drainedBy, held]
      exact tally.batches_drain
  | step =>
      simp only [Tally.next, drainedBy, held]
      split
      · exact tally.batches_drain
      · exact (List.append_nil _).symm
  | shutdown => exact (List.append_nil _).symm
  | pass milliseconds => exact (List.append_nil _).symm

theorem flatten_filter_isEmpty {α : Type} (lists : List (List α)) :
    (lists.filter (!·.isEmpty)).flatten = lists.flatten := by
  induction lists with
  | nil => rfl
  | cons items rest ih =>
      cases items with
      | nil => exact ih
      | cons item more =>
          simp only [List.filter_cons, List.isEmpty_cons, Bool.not_false, if_true,
            List.flatten_cons, ih]

theorem batches_sublist (tally : Tally) : (tally.batches room).flatten.Sublist tally.all := by
  have part : (tally.ended.map (latest room)).flatten.Sublist tally.ended.flatten := by
    induction tally.ended with
    | nil => exact .refl _
    | cons came rest ih => exact (List.drop_sublist _ came).append ih
  unfold Tally.batches all
  rw [flatten_filter_isEmpty]
  exact part.trans (List.sublist_append_left _ _)

theorem Covers.sends (covers : tally.Covers room hits journal)
    (sends : Sends journal after batches) : tally.Covers room hits after := by
  constructor
  · rw [sends.came, covers.came]
  · exact covers.held
  · rw [sends.lost, covers.lost]
  · rw [sends.warned, sends.lost, covers.warned]

theorem Covers.drain (covers : tally.Covers room hits journal) :
    tally.drain.Covers room [] journal := by
  constructor
  · rw [covers.came]
    simp [all, Tally.drain]
  · rfl
  · rw [covers.lost]
    simp [Tally.lost, Tally.drain]
  · exact covers.warned

theorem Covers.enter {queue : HitQueue} {hit : QueuedHit} {entered : HitQueue.Accepted}
    (covers : tally.Covers queue.capacity queue.hits journal)
    (taken : queue.enqueue hit = some entered) :
    { tally with current := tally.current ++ [hit] }.Covers queue.capacity entered.queue.hits
      (journal ++ ofArrival 0 entered.dropped hit) := by
  have held := covers.held
  unfold latest at held
  rw [rtake_min] at held
  obtain ⟨hits, lost⟩ := HitQueue.enqueue_latest taken held
  obtain ⟨came, went, _⟩ := accounts_ofArrival journal entered.dropped hit
  constructor
  · rw [came, covers.came]
    exact List.append_assoc _ _ _
  · unfold latest
    rw [rtake_min]
    exact hits
  · rw [went, covers.lost]
    simp only [Tally.lost, lost, List.append_assoc]
  · rw [overflows_append, covers.warned, overflows_ofArrival, went, List.map_append]

end Tally

def tallyFrom (tally : Tally) (engine : Engine Unit) : List ProcessorEvent → Tally
  | [] => tally
  | next :: rest => tallyFrom (tally.next engine next) (engine.after (event next)) rest

def tallyOf (config : QueueConfig) (courier : Courier) (world : World)
    (past : List ProcessorEvent) : Tally :=
  tallyFrom {} (launched config courier world) past

theorem tallyFrom_snoc (tally : Tally) (engine : Engine Unit) (past : List ProcessorEvent)
    (next : ProcessorEvent) :
    tallyFrom tally engine (past ++ [next]) =
      (tallyFrom tally engine past).next (engine.course (past.map event)) next := by
  induction past generalizing tally engine with
  | nil => rfl
  | cons first rest ih => exact ih _ _

theorem tallyOf_snoc (config : QueueConfig) (courier : Courier) (world : World)
    (past : List ProcessorEvent) (next : ProcessorEvent) :
    tallyOf config courier world (past ++ [next]) =
      (tallyOf config courier world past).next (run config courier world past) next :=
  tallyFrom_snoc {} (launched config courier world) past next

/-! ### One event -/

namespace Turn

variable {engine after : Engine Unit} {task changed : Task Unit} {loop later : HitLoop}
  {next : ProcessorEvent} {tally : Tally}

theorem config (turn : Turn engine task loop next after changed later) :
    changed.queue.config = task.queue.config := by
  cases turn with
  | refused => rfl
  | entered opened taken answer config => exact config.trans (HitQueue.announces_enqueue taken).config
  | emptied config => exact config
  | shut config => exact config
  | passed => rfl
  | rested => rfl
  | moved moves => exact HitLoop.config_step moves

theorem closed (turn : Turn engine task loop next after changed later) :
    changed.queue.closed = true ↔ task.queue.closed = true ∨ next = .shutdown := by
  cases turn with
  | refused => simp
  | entered opened taken answer config closed =>
      rw [closed, (HitQueue.enqueue_taken taken).2.2]
      simp
  | emptied config closed =>
      rw [closed]
      simp
  | shut config closed => simp [closed]
  | passed => simp
  | rested => simp
  | moved moves =>
      have same := HitLoop.closed_step moves
      simp only [reduceCtorEq, or_false]
      rw [← same]

theorem covers (lone : Lone engine task loop)
    (turn : Turn engine task loop next after changed later)
    (covers : tally.Covers task.queue.capacity task.queue.hits engine.outbox.journal) :
    (tally.next engine next).Covers task.queue.capacity changed.queue.hits
      after.outbox.journal := by
  have takes := lone.takes
  cases turn with
  | refused closed result =>
      simp only [Tally.next, result]
      exact covers
  | entered opened taken answer config closed hits stirred outbox =>
      simp only [Tally.next, answer]
      rw [hits, outbox]
      exact covers.enter taken
  | emptied config closed hits stirred outbox =>
      change tally.drain.Covers _ _ _
      rw [hits, outbox]
      split
      · exact covers.drain
      · exact covers.drain.sends (engine.outbox.sends_deliver 0 _)
  | shut config closed hits stirred outbox =>
      rw [hits, outbox]
      exact covers
  | passed milliseconds outbox =>
      rw [outbox]
      exact covers
  | rested stays =>
      simp only [Tally.next, takes, HitLoop.not_flushing_of_rests stays]
      exact covers
  | moved moves outbox =>
      have hands := HitLoop.hands_step moves
      rw [outbox]
      simp only [Tally.next, takes]
      split at hands
      · rename_i flushing
        rw [if_pos flushing, hands.1]
        exact covers.drain.sends (task.sends_deliver loop engine.outbox)
      · rename_i busy
        rw [if_neg busy, hands.1]
        exact covers.sends (task.sends_deliver loop engine.outbox)

/-- What an event drains goes to the journal or into the hands of the loop, before the batch that the
loop had there already. -/
theorem handed (lone : Lone engine task loop)
    (turn : Turn engine task loop next after changed later) :
    sentOrHeld after.outbox.journal later =
      answered 0 engine.outbox.journal ++ drainedBy engine next ++ loop.stage.batch?.toList := by
  have still (quiet : answered 0 after.outbox.journal = answered 0 engine.outbox.journal)
      (kept : later.stage.batch? = loop.stage.batch?) :
      sentOrHeld after.outbox.journal later =
        answered 0 engine.outbox.journal ++ [] ++ loop.stage.batch?.toList := by
    rw [sentOrHeld, quiet, kept, List.append_nil]
  have takes := lone.takes
  cases turn with
  | refused closed result => exact still rfl rfl
  | entered opened taken answer config closed hits stirred outbox =>
      refine still ?_ stirred.batch
      rw [outbox]
      exact (accounts_ofArrival engine.outbox.journal _ _).2.2
  | emptied config closed hits stirred outbox =>
      rw [sentOrHeld, outbox, stirred.batch, drainedBy, lone.waiting]
      split
      · rename_i empty
        simp [empty]
      · rename_i present
        rw [(engine.outbox.sends_deliver 0 _).handed]
        simp [present]
  | shut config closed hits stirred outbox =>
      refine still ?_ stirred.batch
      rw [outbox]
  | passed milliseconds outbox =>
      refine still ?_ rfl
      rw [outbox]
  | rested stays =>
      simp only [drainedBy, takes, HitLoop.not_flushing_of_rests stays]
      exact still rfl rfl
  | moved moves outbox =>
      have hands := HitLoop.hands_step moves
      have sent := (task.sends_deliver loop engine.outbox).handed
      simp only [drainedBy, takes, lone.waiting]
      split at hands
      · rename_i flushing
        rw [if_pos flushing, sentOrHeld, outbox, sent, hands.2,
          Stage.batch?_of_isFlushing flushing]
        simp
      · rename_i busy
        -- what the loop had in its hands is in the journal now
        rw [if_neg busy, sentOrHeld, outbox, sent, hands.2]
        simp

/-- What happens is added to the journal, and the courier stays in its place. -/
theorem grows (turn : Turn engine task loop next after changed later) :
    (∃ news, after.outbox.journal = engine.outbox.journal ++ news) ∧
      after.outbox.couriers.length = engine.outbox.couriers.length := by
  have still {after : Engine Unit} (same : after.outbox = engine.outbox) :
      (∃ news, after.outbox.journal = engine.outbox.journal ++ news) ∧
        after.outbox.couriers.length = engine.outbox.couriers.length := by
    rw [same]
    exact ⟨⟨[], (List.append_nil _).symm⟩, rfl⟩
  cases turn with
  | refused => exact still rfl
  | entered opened taken answer config closed hits stirred outbox =>
      rw [outbox]
      exact ⟨⟨_, rfl⟩, rfl⟩
  | emptied config closed hits stirred outbox =>
      split at outbox
      · exact still outbox
      · rw [outbox]
        exact ⟨(engine.outbox.sends_deliver 0 _).grows, engine.outbox.couriers_deliver 0 0 _⟩
  | shut config closed hits stirred outbox => exact still outbox
  | passed milliseconds outbox => exact still outbox
  | rested => exact still rfl
  | moved moves outbox =>
      rw [outbox]
      exact ⟨(task.sends_deliver loop engine.outbox).grows,
        task.couriers_deliver loop 0 engine.outbox⟩

theorem lost (turn : Turn engine task loop next after changed later) {oldest : QueuedHit}
    (gone : oldest ∈ dropped 0 after.outbox.journal) :
    oldest ∈ dropped 0 engine.outbox.journal ∨
      ∃ hit, next = .enqueue hit ∧ task.queue.capacity ≤ task.queue.hits.length ∧
        task.queue.hits.head? = some oldest := by
  cases turn with
  | entered opened taken answer config closed hits stirred outbox =>
      rename_i hit room
      obtain ⟨_, went, _⟩ :=
        accounts_ofArrival engine.outbox.journal room.dropped (engine.stamped hit)
      rw [outbox] at gone
      rcases List.mem_append.mp (went ▸ gone) with old | new
      · exact .inl old
      · obtain ⟨full, first⟩ := HitQueue.dropped_enqueue taken (Option.mem_toList.mp new)
        exact .inr ⟨hit, rfl, full, first⟩
  | emptied config closed hits stirred outbox =>
      rw [outbox] at gone
      split at gone
      · exact .inl gone
      · rw [(engine.outbox.sends_deliver 0 _).lost] at gone
        exact .inl gone
  | shut config closed hits stirred outbox =>
      rw [outbox] at gone
      exact .inl gone
  | passed milliseconds outbox =>
      rw [outbox] at gone
      exact .inl gone
  | moved moves outbox =>
      rw [outbox, (task.sends_deliver loop engine.outbox).lost] at gone
      exact .inl gone
  | _ => exact .inl gone

end Turn

end Processor

end Telemetry
