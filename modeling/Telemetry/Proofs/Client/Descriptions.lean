import Telemetry.Proofs.Delivery.Provenance
import Telemetry.Proofs.Json.Forms
import Telemetry.Proofs.Queue.Overflow
import Telemetry.Proofs.Queue.Seal
import Telemetry.Proofs.Service.Traffic

/-! Descriptions of errors on their way to the collector. A description is cut where a hit is made
from it, and nowhere behind: a hit that was made in another way takes its description to the
collector as it is. -/

namespace Telemetry

open Journal

/-- The longest part from the start of a description that a report may hold. -/
structure IsCutOf (sent description : String) : Prop where
  short : sent.toList.length ≤ maxDescriptionLength
  start : sent.toList <+: description.toList
  longest : ∀ other : List Char, other <+: description.toList →
    other.length ≤ maxDescriptionLength → other.length ≤ sent.toList.length

theorem isCutOf_cut (description : String) (fatal : Bool) :
    IsCutOf (Failure.cut description fatal).description description := by
  unfold Failure.cut
  constructor
  · rw [String.toList_ofList]
    exact List.length_take_le _ _
  · rw [String.toList_ofList]
    exact List.take_prefix _ _
  · intro other begins few
    rw [String.toList_ofList, List.length_take]
    exact Nat.le_min.mpr ⟨few, begins.length_le⟩

theorem isCutOf_self {description : String} :
    IsCutOf description description ↔ description.toList.length ≤ maxDescriptionLength := by
  constructor
  · exact IsCutOf.short
  · intro short
    exact ⟨short, List.prefix_rfl, fun other begins _ => begins.length_le⟩

inductive ClientStep where
  | build (origin : Origin) (config : ClientConfig) (courier : Option Nat) (hasRuntime : Bool)
  | supply (courier : Courier) (blank : courier.IsBlank)
  | call (index : Nat) (operation : ClientOperation)
  | release (index : Nat)
  | go (index place : Nat)
  | tick (milliseconds : Nat)
  | sleep (milliseconds : Nat)
  /-- Panics in deliveries are reported by a client from now on, or no longer. -/
  | lend (witness : Option Nat)

namespace Clients

def happen (clients : Clients) : ClientStep → Clients
  | .build origin config courier hasRuntime =>
      (clients.build origin config courier hasRuntime).2
  | .supply courier _ => Engine.after clients (.supply courier)
  | .call index operation => clients.perform index operation
  | .release index => clients.release index
  | .go index place => Engine.after clients (.go index place)
  | .tick milliseconds => Engine.after clients (.tick milliseconds)
  | .sleep milliseconds => Engine.sleep clients milliseconds
  | .lend witness => Engine.after clients (.lend witness)

/-- The clients of an application that has gone through the steps, whatever the world is like. -/
def history (world : World) (steps : List ClientStep) : Clients :=
  steps.foldl happen { outbox := { world } }

theorem history_preserves (holds : Clients → Prop) {world : World}
    (start : holds { outbox := { world } })
    (happens : ∀ (clients : Clients) (step : ClientStep), holds clients →
      holds (clients.happen step))
    (steps : List ClientStep) : holds (history world steps) := by
  unfold history
  generalize ({ outbox := { world } } : Clients) = clients at start
  induction steps generalizing clients with
  | nil => exact start
  | cons step rest ih => exact ih _ (happens clients step start)

theorem leadsTo_happen (clients : Clients) (step : ClientStep) :
    Engine.LeadsTo QueueEvent.Honest clients (clients.happen step) := by
  cases step with
  | build origin config courier hasRuntime =>
      unfold happen build buildBy
      dsimp only
      split
      · exact .refl _
      · exact clients.leadsTo_launch_of (fun _ _ => rfl) (fun _ _ _ => trivial) (fun _ => trivial)
          origin config courier
  | supply courier blank => exact .single clients (.supply courier) blank
  | call index operation =>
      refine (clients.leadsTo_perform index operation).weaken fun event told => ?_
      cases event with
      | supply courier => exact told.2.2.elim
      | _ => trivial
  | release index => exact clients.leadsTo_release index trivial
  | go index place => exact .single clients (.go index place) trivial
  | tick milliseconds => exact .single clients (.tick milliseconds) trivial
  | sleep milliseconds =>
      exact Engine.leadsTo_sleep (fun _ _ => trivial) (fun _ => trivial) clients milliseconds
  | lend witness => exact .single clients (.lend witness) trivial

theorem explained_happen {clients : Clients} (explained : Engine.Explained clients)
    (step : ClientStep) : Engine.Explained (clients.happen step) :=
  (clients.leadsTo_happen step).preserves Engine.Explained
    (fun _ _ honest explained => explained.after honest) explained

theorem explained_history (world : World) (steps : List ClientStep) :
    Engine.Explained (history world steps) := by
  refine history_preserves Engine.Explained ⟨?_, ?_⟩
    (fun _ step explained => explained_happen explained step) steps
  · intro queue hit
    rfl
  · intro courier sender collector found
    cases found

end Clients

theorem Task.courier_withQueue {α : Type} (task : Task α) (queue : HitQueue) (ticket : Nat) :
    (task.withQueue queue ticket).courier = task.courier := by
  unfold withQueue
  rcases grant_cases { task with queue } ticket with same | ⟨index, loop, held, waits, woken⟩
  · rw [same]
  · rw [woken]

namespace Clients

structure Forwards (clients : Clients) (index courier : Nat) (task : Task Client) : Prop where
  held : clients.tasks[index]? = some task
  courier : task.courier = courier
  queue : task.queue.closed = false
  client : task.owner.closed = false
  enabled : task.owner.enabled = true
  earnest : task.owner.dryRun = false

theorem Forwards.send {clients : Clients} {index courier : Nat} {task : Task Client}
    (forwards : clients.Forwards index courier task) (hit : Hit) :
    (clients.send index hit).1 = .ok () ∧
      (clients.send index hit).2.outbox.couriers = clients.outbox.couriers ∧
      ∃ after, (clients.send index hit).2.tasks[index]? = some after ∧ after.courier = courier ∧
        ∃ queued ∈ after.queue.hits, queued.hit = hit := by
  have found : clients.client? index = some task.owner := by
    unfold client?
    rw [forwards.held]
    rfl
  have passed : clients.send index hit = clients.enqueue index hit := by
    unfold Clients.send
    simp only [found, forwards.client, forwards.enabled, forwards.earnest]
    rfl
  rw [passed]
  rcases clients.enqueue_cases index hit with ⟨_, shut⟩ | ⟨other, room, same, _, taken, result⟩
  · have closed := shut task forwards.held
    rw [forwards.queue] at closed
    cases closed
  · rw [forwards.held] at same
    cases same
    rw [result]
    refine ⟨rfl, rfl, task.withQueue room.queue clients.ticket, ?_, ?_, clients.stamped hit, ?_, rfl⟩
    · show (Engine.setQueue clients index room.queue).tasks[index]? = _
      unfold Engine.setQueue
      rw [Engine.task_modify, if_pos rfl, forwards.held]
      rfl
    · exact (task.courier_withQueue room.queue clients.ticket).trans forwards.courier
    · rw [(task.queue_withQueue room.queue clients.ticket).2,
        (HitQueue.enqueue_taken taken).2.1]
      exact List.mem_append_right _ List.mem_cons_self

end Clients

theorem Outbox.deliver_http {outbox : Outbox} {courier : Nat} {sender : HttpSender}
    {collector : Collector} (found : outbox.couriers[courier]? = some (.http sender collector))
    (queue : Nat) (batch : List QueuedHit) :
    (outbox.deliver queue courier batch).1 =
        (sender.send outbox.world.calendar batch collector).answer ∧
      (outbox.deliver queue courier batch).2.couriers[courier]? =
        some (.http sender (sender.send outbox.world.calendar batch collector).collector) := by
  have inside := (List.getElem?_eq_some_iff.mp found).1
  unfold deliver
  simp only [found]
  exact ⟨rfl, List.getElem?_set_self inside⟩

/-- A collector that takes everything gets each hit of a batch on a line of its own. -/
theorem HttpSender.send_reaches {sender : HttpSender} {collector : Collector}
    (addressed : sender.HasAddress) (takes : collector.TakesAll) (calendar : Calendar)
    {batch : List QueuedHit} {queued : QueuedHit} (among : queued ∈ batch) :
    (sender.send calendar batch collector).answer = .delivered ∧
      ∃ request ∈ (sender.send calendar batch collector).collector.requests, ∃ now,
        sender.payloadAt queued now ∈ request.lines := by
  obtain ⟨delivered, reached⟩ :=
    sendGroups_taken addressed takes calendar (groupsOf maxHitsPerRequest batch)
  have lines := sender.lines_requestsFor calendar
    fun group (present : group ∈ groupsOf maxHitsPerRequest batch) => ne_nil_of_mem_groupsOf present
  obtain ⟨now, written⟩ := payloadAt_mem among calendar
  rw [flatten_groupsOf] at lines
  rw [← lines] at written
  obtain ⟨request, posted, line⟩ := List.mem_flatMap.mp written
  refine ⟨delivered, request, ?_, now, line⟩
  unfold send
  rw [reached]
  exact List.mem_append_right _ posted

/-- A flush to a collector that takes everything brings every hit of the queue there. -/
theorem Engine.flush_reaches {α : Type} {engine : Engine α} {index : Nat} {task : Task α}
    {sender : HttpSender} {collector : Collector} (held : engine.tasks[index]? = some task)
    (found : engine.outbox.couriers[task.courier]? = some (.http sender collector))
    (addressed : sender.HasAddress) (takes : collector.TakesAll) {queued : QueuedHit}
    (waits : queued ∈ task.queue.hits) :
    ∃ later, (engine.flush index).2.outbox.couriers[task.courier]? = some (.http sender later) ∧
      ∃ request ∈ later.requests, ∃ now, sender.payloadAt queued now ∈ request.lines := by
  obtain ⟨answered, carried⟩ := Outbox.deliver_http found index task.queue.drain.1
  have among : queued ∈ task.queue.drain.1 := waits
  obtain ⟨delivered, request, noted, now, line⟩ :=
    HttpSender.send_reaches addressed takes engine.outbox.world.calendar among
  have filled : task.queue.drain.1.isEmpty = false :=
    List.isEmpty_eq_false_iff.mpr (List.ne_nil_of_mem waits)
  have ended : (engine.flush index).2.outbox =
      (engine.outbox.deliver index task.courier task.queue.drain.1).2 := by
    unfold flush
    simp only [held, filled, outbox_setQueue]
    rw [answered, delivered]
    rfl
  refine ⟨_, ?_, request, noted, now, line⟩
  rw [ended]
  exact carried

def CutsDescription (line : String) (failure : Failure) : Prop :=
  ∃ sent, (Form.decode line).lookup "exd" = some sent ∧ IsCutOf sent failure.description

theorem lookup_description (origin : Origin) (failure : Failure) (wait : Duration) :
    (Form.decode (payload origin (.exception failure) wait)).lookup "exd" =
      some failure.description := by
  rw [decode_payload, lookup_hit origin (.exception failure) wait (by decide)]
  rfl

theorem cutsDescription_payload (origin : Origin) (failure : Failure) (wait : Duration) :
    CutsDescription (payload origin (.exception failure) wait) failure ↔
      failure.description.toList.length ≤ maxDescriptionLength := by
  unfold CutsDescription
  rw [lookup_description, ← isCutOf_self]
  constructor
  · rintro ⟨sent, same, cut⟩
    cases same
    exact cut
  · intro cut
    exact ⟨_, rfl, cut⟩

/-- An error that a client takes is on the line of a request once its queue is flushed to a collector
that takes everything. -/
theorem Clients.Forwards.reaches {clients : Clients} {index courier : Nat} {task : Task Client}
    (forwards : clients.Forwards index courier task) {sender : HttpSender} {collector : Collector}
    (found : clients.outbox.couriers[courier]? = some (.http sender collector))
    (addressed : sender.HasAddress) (takes : collector.TakesAll) (hit : Hit) :
    (clients.send index hit).1 = .ok () ∧
      ∃ later, (Engine.flush (clients.send index hit).2 index).2.outbox.couriers[courier]? =
          some (.http sender later) ∧
        ∃ request ∈ later.requests, ∃ wait, payload sender.origin hit wait ∈ request.lines := by
  obtain ⟨taken, couriers, after, held, rfl, queued, waits, rfl⟩ := forwards.send hit
  rw [← couriers] at found
  obtain ⟨later, there, request, noted, now, line⟩ :=
    Engine.flush_reaches held found addressed takes waits
  exact ⟨taken, later, there, request, noted, _, line⟩

/-- Descriptions come to a collector as they stand in the hits, so that one of them is cut as it
should be if and only if it has no more characters than a report may hold. Those of hits that are made
from a description are; those of hits that are read from JSON can have any length, and a client takes
and sends all of them. -/
theorem Clients.descriptions_cut_iff (world : World) (steps : List ClientStep) {courier : Nat}
    {sender : HttpSender} {collector : Collector}
    (found : (history world steps).outbox.couriers[courier]? = some (.http sender collector)) :
    (∀ request ∈ collector.requests, ∀ line ∈ request.lines,
      ∃ queue, ∃ queued ∈ accepted queue (history world steps).outbox.journal,
        (∃ wait, Form.decode line = parameters sender.origin queued.hit wait) ∧
        ∀ failure, queued.hit = .exception failure →
          (CutsDescription line failure ↔
            failure.description.toList.length ≤ maxDescriptionLength)) ∧
      (∀ index task failure, (history world steps).Forwards index courier task →
        sender.HasAddress → collector.TakesAll →
        ((history world steps).send index (.exception failure)).1 = .ok () ∧
        ∃ later, (Engine.flush ((history world steps).send index (.exception failure)).2
            index).2.outbox.couriers[courier]? = some (.http sender later) ∧
          ∃ request ∈ later.requests, ∃ line ∈ request.lines,
            hitOf? (Form.decode line) = some (.exception failure) ∧
            (CutsDescription line failure ↔
              failure.description.toList.length ≤ maxDescriptionLength)) ∧
      (∀ description fatal, ∃ failure, Hit.ofFailure description fatal = .exception failure ∧
        IsCutOf failure.description description ∧
        failure.description.toList.length ≤ maxDescriptionLength) ∧
      ∀ failure, Hit.ofJson (toJson (Hit.exception failure)) = .ok (.exception failure) := by
  refine ⟨?_, ?_, ?_, ?_⟩
  · intro request noted line among
    obtain ⟨queue, queued, came, now, rfl⟩ :=
      (explained_history world steps).lines found noted among
    refine ⟨queue, queued, came, ⟨_, decode_payload _ _ _⟩, ?_⟩
    intro failure isFailure
    rw [isFailure]
    exact cutsDescription_payload _ _ _
  · intro index task failure forwards addressed takes
    obtain ⟨taken, later, there, request, noted, wait, line⟩ :=
      forwards.reaches found addressed takes (.exception failure)
    refine ⟨taken, later, there, request, noted, _, line, ?_, cutsDescription_payload _ _ _⟩
    rw [decode_payload, hitOf?_parameters]
  · intro description fatal
    have cut := isCutOf_cut description fatal
    exact ⟨_, rfl, cut, cut.short⟩
  · intro failure
    exact (isReadBack_hit (.exception failure)).fromForm _ (.same _)

def Origin.cards : Origin := ⟨⟨"UA-1-1", "Cards", "3", "com.example.cards", true⟩, "cid-1"⟩

def ClientConfig.cards : ClientConfig where
  queue := { maxBatchSize := 10 }

def HttpSender.cards : HttpSender := .make ClientConfig.cards.baseUrl .cards {} "cards/9"

theorem HttpSender.cards_hasAddress : HttpSender.cards.HasAddress := by decide +kernel

theorem Collector.takesAll_default : Collector.TakesAll {} := by decide +kernel

namespace Clients

def soleClient : List ClientStep :=
  [.supply (.http .cards {}) (Eq.refl []), .build .cards .cards (some 0) true]

theorem history_soleClient : history {} soleClient =
    Clients.launch { outbox := { couriers := [.http .cards {}] } } .cards .cards (some 0) := by
  have accepted : ClientConfig.cards.check Url.parse Origin.cards.identity true true = .ok () := by
    decide +kernel
  show (Clients.build { outbox := { couriers := [.http .cards {}] } } .cards .cards (some 0)
    true).2 = _
  unfold build buildBy
  simp only [Option.isSome_some, accepted]

theorem courier_soleClient :
    (history {} soleClient).outbox.couriers[0]? = some (.http .cards {}) := by
  rw [history_soleClient]
  rfl

theorem forwards_soleClient : ∃ task, (history {} soleClient).Forwards 0 0 task := by
  rw [history_soleClient]
  exact ⟨_, rfl, rfl, rfl, rfl, rfl, rfl⟩

def tooLong : Failure := ⟨String.ofList (List.replicate 101 'x'), true⟩

theorem length_tooLong : tooLong.description.toList.length = maxDescriptionLength + 1 := by
  unfold tooLong
  rw [String.toList_ofList, List.length_replicate]
  rfl

theorem descriptions_cut_iff_tooLong :
    (history {} soleClient).outbox.couriers[0]? = some (.http .cards {}) ∧
      ∃ task, (history {} soleClient).Forwards 0 0 task ∧ HttpSender.cards.HasAddress ∧
        Collector.TakesAll {} ∧
        ((history {} soleClient).send 0 (.exception tooLong)).1 = .ok () ∧
        ∃ later, (Engine.flush ((history {} soleClient).send 0 (.exception tooLong)).2
            0).2.outbox.couriers[0]? = some (.http .cards later) ∧
          ∃ request ∈ later.requests, ∃ line ∈ request.lines,
            hitOf? (Form.decode line) = some (.exception tooLong) ∧
            ¬CutsDescription line tooLong := by
  obtain ⟨task, forwards⟩ := forwards_soleClient
  obtain ⟨_, sends, _, _⟩ := descriptions_cut_iff {} soleClient courier_soleClient
  obtain ⟨taken, later, there, request, noted, line, among, back, cut⟩ :=
    sends 0 task tooLong forwards HttpSender.cards_hasAddress Collector.takesAll_default
  have long := length_tooLong
  exact ⟨courier_soleClient, task, forwards, HttpSender.cards_hasAddress, Collector.takesAll_default,
    taken, later, there, request, noted, line, among, back, fun cuts => by
      have short := cut.mp cuts
      omega⟩

/-- An error of one hundred and one characters that is read from JSON is taken, and reaches the
collector with all of them. -/
theorem description_left_whole :
    let form := Json.object [("type", .text "exception"),
      ("description", .text (String.ofList (List.replicate 101 'x'))), ("fatal", .boolean true)]
    let sent := (history {} soleClient).send 0 (.exception tooLong)
    Hit.ofJson form = .ok (.exception tooLong) ∧ sent.1 = .ok () ∧
      ∃ later, (Engine.flush sent.2 0).2.outbox.couriers[0]? = some (.http .cards later) ∧
        ∃ request ∈ later.requests, ∃ line ∈ request.lines,
          (Form.decode line).lookup "exd" = some (String.ofList (List.replicate 101 'x')) ∧
          maxDescriptionLength = 100 ∧ ¬CutsDescription line tooLong := by
  intro form sent
  obtain ⟨task, forwards⟩ := forwards_soleClient
  obtain ⟨taken, later, there, request, noted, wait, line⟩ :=
    forwards.reaches courier_soleClient HttpSender.cards_hasAddress Collector.takesAll_default
      (.exception tooLong)
  refine ⟨rfl, taken, later, there, request, noted, _, line, lookup_description _ _ _, rfl, ?_⟩
  rw [cutsDescription_payload, length_tooLong]
  exact Nat.not_succ_le_self _

end Clients

end Telemetry
