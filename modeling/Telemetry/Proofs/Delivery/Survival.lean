import Telemetry.Client.Config
import Telemetry.Proofs.Delivery.Breakdown
import Telemetry.Proofs.Queue.Drainage

/-! Which policies a loop survives. If each pause that a policy can need comes out, no delivery ends by
a panic and the loop goes on to send what comes in. Under any other policy a server that answers
nothing ends the loop at its first batch, and what comes in later stays in the queue. -/

namespace Telemetry

open Journal

/-- Whatever batches it is given one after the other, each delivery ends by a panic. -/
def Courier.Panics (courier : Courier) : Prop :=
  ∀ (given : List (Calendar × List QueuedHit)) (calendar : Calendar) (batch : List QueuedHit),
    batch ≠ [] → ∃ message,
      ((given.foldl (fun held next => (held.deliver next.1 next.2).courier) courier).deliver
        calendar batch).answer = .panicked message

theorem Courier.Panics.deliver {courier : Courier} (panics : courier.Panics) (calendar : Calendar)
    (batch : List QueuedHit) : (courier.deliver calendar batch).courier.Panics :=
  fun given => panics ((calendar, batch) :: given)

theorem groupsOf_ne_nil {α : Type} (size : Nat) {items : List α} (filled : items ≠ []) :
    ∃ group rest, groupsOf size items = group :: rest := by
  cases items with
  | nil => exact absurd rfl filled
  | cons item others =>
      rw [groupsOf]
      exact ⟨_, _, rfl⟩

theorem HttpSender.Unanswered.send {sender : HttpSender} {collector : Collector}
    (unanswered : sender.Unanswered collector) {attempt : Nat}
    (first : sender.policy.FirstMissing attempt) (calendar : Calendar) {hits : List QueuedHit}
    (filled : hits ≠ []) :
    (sender.send calendar hits collector).answer =
      .panicked (sender.policy.breakdownMessage attempt) := by
  obtain ⟨group, rest, groups⟩ := groupsOf_ne_nil maxHitsPerRequest filled
  unfold HttpSender.send
  rw [groups, HttpSender.sendGroups_panicked]
  exact unanswered.breaksDown calendar first

theorem Courier.panics_http {sender : HttpSender} {collector : Collector}
    (unanswered : sender.Unanswered collector) {attempt : Nat}
    (first : sender.policy.FirstMissing attempt) : (Courier.http sender collector).Panics := by
  intro given
  induction given generalizing collector with
  | nil =>
      intro calendar batch filled
      exact ⟨_, unanswered.send first calendar filled⟩
  | cons next rest ih => exact ih (unanswered.sendGroups next.1 _)

def Outbox.Panics (outbox : Outbox) : Prop :=
  ∀ courier ∈ outbox.couriers, courier.Panics

theorem Outbox.Panics.deliver {outbox : Outbox} (panics : outbox.Panics) (queue courier : Nat)
    (batch : List QueuedHit) : (outbox.deliver queue courier batch).2.Panics := by
  unfold Outbox.deliver
  split
  · exact panics
  · rename_i found held
    intro other member
    rcases List.mem_or_eq_of_mem_set member with old | new
    · exact panics other old
    · rw [new]
      exact (panics found (List.mem_of_getElem? held)).deliver _ batch

theorem Outbox.Panics.answer {outbox : Outbox} (panics : outbox.Panics) (queue : Nat)
    {courier : Nat} (there : courier < outbox.couriers.length) {batch : List QueuedHit}
    (filled : batch ≠ []) :
    ∃ message, (outbox.deliver queue courier batch).1 = .panicked message := by
  unfold Outbox.deliver
  rw [List.getElem?_eq_getElem there]
  exact panics _ (List.getElem_mem there) [] _ batch filled

theorem Task.panics_deliver {α : Type} (task : Task α) (loop : HitLoop) (index : Nat)
    {outbox : Outbox} (panics : outbox.Panics) :
    (task.deliver loop index outbox).2.Panics := by
  unfold Task.deliver
  split
  · exact panics
  · rename_i batch _
    have delivered := panics.deliver index task.courier batch
    dsimp only
    split
    · exact delivered
    · exact delivered

namespace Processor

section Turns

variable {engine after : Engine Unit} {task changed : Task Unit} {loop later : HitLoop}
  {next : ProcessorEvent}

theorem Turn.panics (turn : Turn engine task loop next after changed later)
    (panics : engine.outbox.Panics) : after.outbox.Panics := by
  cases turn with
  | refused => exact panics
  | entered opened taken answer config closed hits stirred outbox =>
      rw [outbox]
      exact panics
  | emptied config closed hits stirred outbox =>
      rw [outbox]
      split
      · exact panics
      · exact panics.deliver 0 0 _
  | shut config closed hits stirred outbox =>
      rw [outbox]
      exact panics
  | passed milliseconds outbox =>
      rw [outbox]
      exact panics
  | rested => exact panics
  | moved moves outbox =>
      rw [outbox]
      exact task.panics_deliver loop 0 panics

/-- A panic ends the loop that has made the delivery, and the batch is gone. -/
theorem Turn.crashes (lone : Lone engine task loop)
    (turn : Turn engine task loop .step after changed later) (panics : engine.outbox.Panics)
    (manned : engine.outbox.couriers.length = 1) {stop : Bool} {batch : List QueuedHit}
    (sending : loop.stage = .sending stop batch) (filled : batch ≠ []) :
    later.stage = .crashed ∧
      answered 0 after.outbox.journal = answered 0 engine.outbox.journal ++ [batch] := by
  have holds : loop.stage.batch? = some batch := by rw [sending]; rfl
  have there : task.courier < engine.outbox.couriers.length := by rw [lone.courier, manned]; decide
  obtain ⟨message, panicked⟩ := panics.answer 0 there filled
  have answer : (task.deliver loop 0 engine.outbox).1 = .panicked message := by
    unfold Task.deliver
    simp only [holds]
    split
    · rename_i failed
      cases failed.symm.trans panicked
    · exact panicked
  have stepped : loop.step task.queue engine.now engine.ticket
      (task.deliver loop 0 engine.outbox).1 =
        some (task.queue, { loop with stage := .crashed }) := by
    rw [answer]
    unfold HitLoop.step
    rw [sending]
  cases turn with
  | rested stays => cases stays.symm.trans stepped
  | moved moves outbox =>
      cases stepped.symm.trans moves
      have sent := (task.sends_deliver loop engine.outbox).handed
      rw [holds] at sent
      rw [outbox]
      exact ⟨rfl, sent⟩

/-- After its end a loop does nothing more; only a caller that flushes hands anything over. -/
theorem Turn.stays_crashed (turn : Turn engine task loop next after changed later)
    (crashed : loop.stage = .crashed) (other : next ≠ .flush) :
    later.stage = .crashed ∧
      answered 0 after.outbox.journal = answered 0 engine.outbox.journal := by
  have stays {changed : HitLoop} (stirred : loop.Stirred changed) : changed.stage = .crashed := by
    rcases stirred with same | ⟨waits, _⟩
    · rw [same]
      exact crashed
    · rw [crashed] at waits
      cases waits
  cases turn with
  | refused => exact ⟨crashed, rfl⟩
  | entered opened taken answer config closed hits stirred outbox =>
      rw [outbox]
      exact ⟨stays stirred, (accounts_ofArrival engine.outbox.journal _ _).2.2⟩
  | emptied => exact absurd rfl other
  | shut config closed hits stirred outbox =>
      rw [outbox]
      exact ⟨stays stirred, rfl⟩
  | passed milliseconds outbox =>
      rw [outbox]
      exact ⟨crashed, rfl⟩
  | rested => exact ⟨crashed, rfl⟩
  | moved moves =>
      unfold HitLoop.step at moves
      rw [crashed] at moves
      cases moves

end Turns

variable {config : QueueConfig} {courier : Courier} {world : World} {past : List ProcessorEvent}
  {task : Task Unit} {loop : HitLoop}

theorem panics_run (config : QueueConfig) (panics : courier.Panics)
    (past : List ProcessorEvent) : (run config courier world past).outbox.Panics := by
  induction past using List.reverseRecOn with
  | nil =>
      intro other member
      exact List.mem_singleton.mp member ▸ panics
  | append_singleton past next ih =>
      obtain ⟨task, loop, held⟩ := keeps config courier world past
      obtain ⟨_, _, _, turn⟩ := held.next next
      exact turn.panics ih

theorem Keeps.batch_ne_nil (keeps : Keeps config courier world past task loop)
    {batch : List QueuedHit} (holds : loop.stage.batch? = some batch) : batch ≠ [] := by
  have among : batch ∈ sentOrHeld (run config courier world past).outbox.journal loop := by
    unfold sentOrHeld
    rw [holds]
    exact List.mem_append_right _ (List.mem_singleton_self batch)
  have listed := keeps.sent.mem_iff.mp among
  rw [keeps.handed] at listed
  have present := (List.mem_filter.mp listed).2
  intro empty
  rw [empty] at present
  cases present

theorem Keeps.crashed_later (keeps : Keeps config courier world past task loop)
    (crashed : loop.stage = .crashed) (later : List ProcessorEvent) (other : .flush ∉ later) :
    ∃ last ended, Keeps config courier world (past ++ later) last ended ∧ ended.stage = .crashed ∧
      answered 0 (run config courier world (past ++ later)).outbox.journal =
        answered 0 (run config courier world past).outbox.journal := by
  induction later using List.reverseRecOn with
  | nil =>
      rw [List.append_nil]
      exact ⟨task, loop, keeps, crashed, rfl⟩
  | append_singleton later next ih =>
      obtain ⟨after, still, held, ended, same⟩ :=
        ih fun member => other (List.mem_append_left _ member)
      obtain ⟨last, stays, reached, turn⟩ := held.next next
      have plain : next ≠ .flush := by
        intro flushes
        exact other (List.mem_append_right _ (flushes ▸ List.mem_singleton_self next))
      obtain ⟨gone, nothing⟩ := turn.stays_crashed ended plain
      rw [List.append_assoc] at reached nothing
      exact ⟨last, stays, reached, gone, nothing.trans same⟩

theorem Keeps.ends (keeps : Keeps config courier world past task loop) (panics : courier.Panics)
    {stop : Bool} {batch : List QueuedHit} (sending : loop.stage = .sending stop batch)
    (later : List ProcessorEvent) (other : .flush ∉ later) :
    ∃ last ended, Keeps config courier world (past ++ .step :: later) last ended ∧
      ended.stage = .crashed ∧
      answered 0 (run config courier world (past ++ .step :: later)).outbox.journal =
        answered 0 (run config courier world past).outbox.journal ++ [batch] := by
  obtain ⟨after, still, held, turn⟩ := keeps.next .step
  have holds : loop.stage.batch? = some batch := by rw [sending]; rfl
  obtain ⟨crashed, sent⟩ :=
    turn.crashes keeps.lone (panics_run config panics past) keeps.manned sending
      (keeps.batch_ne_nil holds)
  obtain ⟨last, ended, reached, gone, nothing⟩ := held.crashed_later crashed later other
  rw [List.append_assoc] at reached nothing
  exact ⟨last, ended, reached, gone, nothing.trans sent⟩

end Processor

def ClientConfig.sender (config : ClientConfig) (origin : Origin) : HttpSender :=
  .make config.baseUrl origin config.policy config.shownUserAgent

theorem ClientConfig.check_policy (config : ClientConfig)
    (parseUrl : String → Except Url.Fault Url) (identity : AppIdentity) (policy : RetryPolicy)
    (hasRuntime hasSender : Bool) :
    { config with policy }.check parseUrl identity hasRuntime hasSender =
      config.check parseUrl identity hasRuntime hasSender := by
  unfold check trimmedBaseUrl lacksSender shownUserAgent
  rfl

open Processor in
/-- The builder takes every policy. A delivery ends by a panic if and only if a pause is reached that
does not come out. If each that the policy can need does, no delivery ends so, the loop is not
ended, and whatever waits is sent within one flush interval. Otherwise, if no request is answered,
every delivery does; the loop is ended by its first one, and hands nothing over any more. -/
theorem ClientConfig.deliveries_return_iff (config : ClientConfig) (origin : Origin)
    (plain : config.policy.jitter = false) :
    (∀ policy hasRuntime hasSender,
      { config with policy }.check Url.parse origin.identity hasRuntime hasSender =
        config.check Url.parse origin.identity hasRuntime hasSender) ∧
      (∀ calendar hits collector message,
        ((config.sender origin).send calendar hits collector).answer = .panicked message ↔
          (config.sender origin).BreaksDown calendar (groupsOf maxHitsPerRequest hits) collector
            message) ∧
      (config.policy.Steady → ∀ collector,
        (∀ calendar hits message,
          ((config.sender origin).send calendar hits collector).answer ≠ .panicked message) ∧
        ∀ world past, ∃ task loop,
          Lone (run config.queue (.http (config.sender origin) collector) world past) task loop ∧
          loop.stage ≠ .crashed ∧ ∃ last rested,
            Lone ((run config.queue (.http (config.sender origin) collector) world past).sleep
              (max 1 config.queue.flushInterval.roundedUp)) last rested ∧
            last.queue.hits = [] ∧ rested.stage ≠ .crashed) ∧
      (¬config.policy.Steady → ∀ collector, (config.sender origin).Unanswered collector →
        (∃ attempt, config.policy.FirstMissing attempt ∧ ∀ calendar hits, hits ≠ [] →
          ((config.sender origin).send calendar hits collector).answer =
            .panicked (config.policy.breakdownMessage attempt)) ∧
        ∀ world past, ∃ task loop,
          Lone (run config.queue (.http (config.sender origin) collector) world past) task loop ∧
          ∀ stop batch, loop.stage = .sending stop batch → ∀ later, .flush ∉ later →
            ∃ last ended,
              Lone (run config.queue (.http (config.sender origin) collector) world
                (past ++ .step :: later)) last ended ∧ ended.stage = .crashed ∧
              answered 0 (run config.queue (.http (config.sender origin) collector) world
                  (past ++ .step :: later)).outbox.journal =
                answered 0 (run config.queue (.http (config.sender origin) collector) world
                  past).outbox.journal ++ [batch]) := by
  refine ⟨config.check_policy Url.parse origin.identity, ?_, ?_, ?_⟩
  · intro calendar hits collector message
    exact HttpSender.sendGroups_panicked
  · intro steady collector
    have returns : (Courier.http (config.sender origin) collector).Returns :=
      Courier.returns_http collector steady.pauses
    constructor
    · intro calendar hits message
      exact returns.answer calendar hits message
    · intro world past
      obtain ⟨task, loop, held⟩ :=
        keeps config.queue (.http (config.sender origin) collector) world past
      exact ⟨task, loop, held.lone, (held.steady returns).calm,
        drained_within_interval config.queue returns world past⟩
  · intro unsteady collector unanswered
    obtain ⟨attempt, first⟩ := RetryPolicy.firstMissing_of_not_steady plain unsteady
    constructor
    · refine ⟨attempt, first, fun calendar hits filled => ?_⟩
      exact unanswered.send first calendar filled
    · intro world past
      have panics := Courier.panics_http unanswered first
      obtain ⟨task, loop, held⟩ :=
        keeps config.queue (.http (config.sender origin) collector) world past
      refine ⟨task, loop, held.lone, ?_⟩
      intro stop batch sending later other
      obtain ⟨last, ended, reached, gone, sent⟩ := held.ends panics sending later other
      exact ⟨last, ended, reached.lone, gone, sent⟩

def ClientConfig.alternating : ClientConfig where
  policy := { factor := -1.0, jitter := false }

def Origin.deck : Origin := ⟨⟨"UA-1-1", "Deck", "1.0", "deck", true⟩, "id"⟩

def ClientConfig.unlimited : ClientConfig where
  policy :=
    { factor := 1.0 / 0.0, maxDelay := ⟨18446744073709551615999999999⟩, jitter := false }

/-- The first hit wakes the loop, which is about to send it. -/
def Processor.firstHit : List ProcessorEvent := [.step, .enqueue (.ofScreen "Deck"), .step, .step]

theorem ClientConfig.deliveries_return_iff_alternating :
    let sender := alternating.sender .deck
    alternating.policy.jitter = false ∧ ¬alternating.policy.Steady ∧
      (∃ attempt, alternating.policy.FirstMissing attempt ∧ ∀ calendar hits, hits ≠ [] →
        (sender.send calendar hits { habit := .hanging }).answer =
          .panicked (alternating.policy.breakdownMessage attempt)) ∧
      ∃ task loop,
        Processor.Lone (Processor.run alternating.queue (.http sender { habit := .hanging }) {}
          Processor.firstHit) task loop ∧
        loop.stage.batch? = some [{ hit := .ofScreen "Deck", queuedAt := ⟨0⟩ }] ∧
        ∃ last ended,
          Processor.Lone (Processor.run alternating.queue (.http sender { habit := .hanging }) {}
            (Processor.firstHit ++ .step :: [.enqueue (.ofScreen "Browser"), .step])) last ended ∧
          ended.stage = .crashed := by
  intro sender
  have plain : alternating.policy.jitter = false := rfl
  have unsteady : ¬alternating.policy.Steady := by
    intro steady
    have missing : alternating.policy.backoff? 1 = none := by decide +kernel
    have present := steady.pauses 1 (by decide)
    rw [missing] at present
    cases present
  have unanswered : sender.Unanswered { habit := .hanging } := by
    constructor
    · decide +kernel
    · rfl
    · rfl
  obtain ⟨_, _, _, ends⟩ := deliveries_return_iff alternating .deck plain
  obtain ⟨panics, crashes⟩ := ends unsteady _ unanswered
  obtain ⟨task, loop, lone, crashed⟩ := crashes {} Processor.firstHit
  have stages : (Processor.run alternating.queue (.http sender { habit := .hanging }) {}
      Processor.firstHit).tasks.map (·.loops.map (·.stage)) =
        [[.sending false [{ hit := .ofScreen "Deck", queuedAt := ⟨0⟩ }]]] := by decide +kernel
  rw [lone.alone, List.map_singleton, lone.single] at stages
  have sending : loop.stage = .sending false [{ hit := .ofScreen "Deck", queuedAt := ⟨0⟩ }] := by
    simpa using stages
  obtain ⟨last, ended, reached, gone, _⟩ :=
    crashed _ _ sending [.enqueue (.ofScreen "Browser"), .step] (by simp)
  refine ⟨plain, unsteady, panics, task, loop, lone, ?_, last, ended, reached, gone⟩
  rw [sending]
  rfl

/-- The builder takes both configurations. Two answers that the server is overloaded end the delivery
by a panic and the loop with it, and the next hit stays in the queue. -/
theorem ClientConfig.delivery_ends_loop :
    let overloaded : Collector := { script := [.answer 503 [] [], .answer 503 [] []] }
    let hit : QueuedHit := { hit := .ofScreen "Deck", queuedAt := ⟨0⟩ }
    let left := Processor.run alternating.queue (.http (alternating.sender .deck) overloaded) {}
      (Processor.firstHit ++ [.step, .enqueue (.ofScreen "Browser"), .step, .pass 10000, .step])
    alternating.check Url.parse Origin.deck.identity true false = .ok () ∧
      ((alternating.sender .deck).send {} [hit] overloaded).answer =
        .panicked negativePauseMessage ∧
      left.tasks.map (fun task => (task.queue.hits.map (·.hit), task.loops.map (·.stage))) =
        [([.ofScreen "Browser"], [.crashed])] ∧
      unlimited.check Url.parse Origin.deck.identity true false = .ok () ∧
      ((unlimited.sender .deck).send {} [hit] overloaded).answer =
        .panicked longPauseMessage := by
  decide +kernel

end Telemetry
