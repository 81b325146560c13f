import Telemetry.Proofs.Queue.Intake
import Telemetry.Proofs.Service.Operation

/-! What operations do to the clients of a service, told as events of their queues. Starting the
service and following a choice bring no hit; everything else leaves it to the service which
clients are enabled. -/

namespace Telemetry

variable {α : Type}

def ClientOperation.Shuts : ClientOperation → Prop
  | .shutdown | .shutdownAndWait => True
  | _ => False

/-- Events that switch no client on or off. -/
def QueueEvent.Tame : QueueEvent Client → Prop
  | .adjust _ change => ∀ client, (change client).enabled = client.enabled
  | _ => True

def QueueEvent.Modest (event : QueueEvent Client) : Prop := event.Silent ∧ event.Tame

theorem QueueEvent.Modest.silent {event : QueueEvent Client} (modest : event.Modest) :
    event.Silent := modest.1

theorem QueueEvent.Modest.tame {event : QueueEvent Client} (modest : event.Modest) :
    event.Tame := modest.2

/-- What becomes of a client that is left in its place. Only if it may be shut, somebody closes it
or waits for its end. -/
structure Client.Lasts (shut : Prop) (before after : Client) : Prop where
  origin : after.origin = before.origin
  closed : before.closed = true → after.closed = true
  kept : ¬shut → after.closed = before.closed ∧ after.awaited = before.awaited

theorem Client.Lasts.refl (shut : Prop) (client : Client) : client.Lasts shut client :=
  ⟨rfl, id, fun _ => ⟨rfl, rfl⟩⟩

theorem Client.Lasts.trans {shut : Prop} {before between after : Client}
    (first : before.Lasts shut between) (second : between.Lasts shut after) :
    before.Lasts shut after where
  origin := second.origin.trans first.origin
  closed := second.closed ∘ first.closed
  kept := by
    intro unshut
    obtain ⟨closed, awaited⟩ := first.kept unshut
    obtain ⟨shut, waited⟩ := second.kept unshut
    exact ⟨shut.trans closed, waited.trans awaited⟩

theorem Client.lasts_switched {shut : Prop} (client : Client) (enabled dryRun : Bool) :
    client.Lasts shut { client with enabled, dryRun } :=
  ⟨rfl, id, fun _ => ⟨rfl, rfl⟩⟩

theorem Client.lasts_closed {shut : Prop} (allowed : shut) (client : Client) :
    client.Lasts shut { client with closed := true } :=
  ⟨rfl, fun _ => rfl, fun unshut => absurd allowed unshut⟩

theorem Client.lasts_awaited {shut : Prop} (allowed : shut) (client : Client) :
    client.Lasts shut { client with awaited := true } :=
  ⟨rfl, id, fun unshut => absurd allowed unshut⟩

/-- Events that leave all clients in their places and shut only the given ones. -/
def QueueEvent.Lasting (shut : Nat → Prop) : QueueEvent Client → Prop
  | .adjust index change => ∀ client : Client, client.Lasts (shut index) (change client)
  | .add _ _ _ | .start _ | .supply _ => False
  | _ => True

/-- Events that bring no hit and shut only the given clients. -/
def QueueEvent.Slight (shut : Nat → Prop) (event : QueueEvent Client) : Prop :=
  event.Silent ∧ event.Lasting shut

namespace Clients

variable {kind : QueueEvent Client → Prop} (clients : Clients) (index : Nat)

theorem leadsTo_setEnabled (enabled : Bool)
    (switches : kind (.adjust index fun client => { client with enabled })) :
    Engine.LeadsTo kind clients (clients.setEnabled index enabled) :=
  .single clients _ switches

theorem leadsTo_setDryRun (dryRun : Bool)
    (switches : kind (.adjust index fun client => { client with dryRun })) :
    Engine.LeadsTo kind clients (clients.setDryRun index dryRun) :=
  .single clients _ switches

theorem leadsTo_release (closes : kind (.close index)) :
    Engine.LeadsTo kind clients (clients.release index) :=
  .single clients (.close index) closes

theorem leadsTo_shutdown
    (marks : kind (.adjust index fun client => { client with closed := true }))
    (closes : kind (.close index)) : Engine.LeadsTo kind clients (clients.shutdown index) := by
  unfold shutdown
  split
  · exact .refl _
  · split
    · exact .refl _
    · have marked : Engine.LeadsTo kind clients
          (clients.modifyClient index fun client => { client with closed := true }) :=
        .single clients _ marks
      exact marked.trans (leadsTo_release _ index closes)

theorem leadsTo_launch_of
    (supplies : ∀ sender (collector : Collector), kind (.supply (.http sender collector.fresh)))
    (adds : ∀ client courier config, kind (.add client courier config))
    (starts : ∀ place, kind (.start place)) (origin : Origin) (config : ClientConfig)
    (courier : Option Nat) :
    Engine.LeadsTo kind clients (clients.launch origin config courier) := by
  have supplied : Engine.LeadsTo kind clients (clients.withCourier origin config courier).2 := by
    unfold withCourier
    split
    · exact .refl _
    · exact .single clients (.supply _) (supplies _ _)
  have added := supplied.trans (.single _ (.add { origin, dryRun := config.dryRun }
    (clients.withCourier origin config courier).1 config.queue) (adds _ _ _))
  exact added.trans (.single _ (.start clients.tasks.length) (starts _))

theorem leadsTo_launch (origin : Origin) (config : ClientConfig) (courier : Option Nat) :
    Engine.LeadsTo QueueEvent.Modest clients (clients.launch origin config courier) :=
  clients.leadsTo_launch_of (fun _ _ => ⟨trivial, trivial⟩) (fun _ _ _ => ⟨trivial, trivial⟩)
    (fun _ => ⟨trivial, trivial⟩) origin config courier

theorem tasks_withCourier (origin : Origin) (config : ClientConfig) (courier : Option Nat) :
    (clients.withCourier origin config courier).2.tasks = clients.tasks := by
  unfold withCourier
  split <;> rfl

/-- A new client stands behind all others, with an open queue and a loop of its own. -/
theorem tasks_launch (origin : Origin) (config : ClientConfig) (courier : Option Nat) :
    ∃ number turn, (clients.launch origin config courier).tasks = clients.tasks ++
      [{ owner := { origin, dryRun := config.dryRun }, courier := number,
         queue := { config := config.queue }, loops := [{ turn }] }] := by
  have kept := clients.tasks_withCourier origin config courier
  refine ⟨(clients.withCourier origin config courier).1,
    (clients.withCourier origin config courier).2.ticket, ?_⟩
  unfold launch Engine.start Engine.modify
  simp only [Engine.add, kept, List.getElem?_concat_length, List.nil_append,
    List.set_append_right _ _ (Nat.le_refl _), Nat.sub_self, List.set_cons_zero]

theorem client_launch (origin : Origin) (config : ClientConfig) (courier : Option Nat)
    (index : Nat) :
    (clients.launch origin config courier).client? index =
      if index = clients.tasks.length then some { origin, dryRun := config.dryRun }
      else clients.client? index := by
  obtain ⟨number, turn, launched⟩ := clients.tasks_launch origin config courier
  unfold client?
  rw [launched]
  by_cases last : index = clients.tasks.length
  · rw [if_pos last, last, List.getElem?_concat_length]
    rfl
  · rw [if_neg last]
    by_cases inside : index < clients.tasks.length
    · rw [List.getElem?_append_left inside]
    · have beyond : clients.tasks.length + 1 ≤ index := by omega
      rw [List.getElem?_eq_none (Nat.le_of_not_lt inside), List.getElem?_eq_none]
      rw [List.length_append, List.length_singleton]
      exact beyond

theorem couriers_launch (origin : Origin) (config : ClientConfig) (courier : Option Nat) :
    (clients.launch origin config courier).outbox.couriers = clients.outbox.couriers ∨
      courier = none ∧ ∃ sender : HttpSender, sender.policy = config.policy ∧
        (clients.launch origin config courier).outbox.couriers = clients.outbox.couriers ++
          [.http sender (clients.outbox.world.collectors clients.outbox.couriers.length).fresh] := by
  unfold launch Engine.start
  rw [Engine.outbox_modify]
  cases courier with
  | some number => exact .inl rfl
  | none => exact .inr ⟨rfl, _, rfl, rfl⟩

theorem length_launch (origin : Origin) (config : ClientConfig) (courier : Option Nat) :
    (clients.launch origin config courier).tasks.length = clients.tasks.length + 1 := by
  obtain ⟨number, turn, launched⟩ := clients.tasks_launch origin config courier
  rw [launched, List.length_append, List.length_singleton]

theorem leadsTo_await (goes : ∀ index place, kind (.go index place))
    (notes : ∀ events, kind (.log events)) :
    Engine.LeadsTo kind clients (clients.await index) := by
  have settled : Engine.LeadsTo kind clients
      (if clients.isRunning index then clients.settle else clients) := by
    split
    · exact Engine.leadsTo_settle goes clients
    · exact .refl _
  have noted (after : Clients) (reached : Engine.LeadsTo kind clients after) :
      Engine.LeadsTo kind clients
        (if after.hasCrashed index then after.log [.loopLost] else after) := by
    split
    · exact reached.trans (.single after (.log [.loopLost]) (notes _))
    · exact reached
  exact noted _ settled

theorem leadsTo_shutdownAndWait
    (marks : kind (.adjust index fun client => { client with closed := true }))
    (closes : kind (.close index))
    (waits : kind (.adjust index fun client => { client with awaited := true }))
    (goes : ∀ index place, kind (.go index place)) (notes : ∀ events, kind (.log events)) :
    Engine.LeadsTo kind clients (clients.shutdownAndWait index) := by
  have closed := clients.leadsTo_shutdown index marks closes
  unfold shutdownAndWait
  dsimp only
  split
  · exact closed
  · split
    · exact closed
    · have marked := closed.trans
        (.single _ (.adjust index fun client => { client with awaited := true }) waits)
      exact marked.trans (leadsTo_await _ index goes notes)

theorem leadsTo_send (hit : Hit) (takes : kind (.enqueue index hit)) :
    Engine.LeadsTo kind clients (clients.send index hit).2 := by
  unfold send
  split
  · exact .refl _
  · split
    · exact .refl _
    · split
      · exact .refl _
      · exact .single clients (.enqueue index hit) takes

/-- What a call on a client is told as: only one that says so switches the client on or off, brings
a hit, or shuts it. -/
def Told (index : Nat) (operation : ClientOperation) (event : QueueEvent Client) : Prop :=
  ((∀ enabled, operation ≠ .setEnabled enabled) → event.Tame) ∧
    ((∀ hit, operation ≠ .send hit) → event.Silent) ∧
      event.Lasting fun place => operation.Shuts ∧ index = place

theorem leadsTo_perform (operation : ClientOperation) :
    Engine.LeadsTo (Told index operation) clients (clients.perform index operation) := by
  have modest {event : QueueEvent Client} (modest : event.Modest)
      (lasting : event.Lasting fun place => operation.Shuts ∧ index = place) :
      Told index operation event := ⟨fun _ => modest.tame, fun _ => modest.silent, lasting⟩
  cases operation with
  | send hit =>
      exact clients.leadsTo_send index hit
        ⟨fun _ => trivial, fun other => absurd rfl (other hit), trivial⟩
  | setEnabled enabled =>
      exact clients.leadsTo_setEnabled index enabled
        ⟨fun other => absurd rfl (other enabled), fun _ => trivial,
          fun client => client.lasts_switched enabled client.dryRun⟩
  | setDryRun dryRun =>
      exact clients.leadsTo_setDryRun index dryRun
        (modest ⟨trivial, fun _ => rfl⟩ fun client => client.lasts_switched client.enabled dryRun)
  | flush => exact .single clients (.flush index) (modest ⟨trivial, trivial⟩ trivial)
  | shutdown =>
      exact clients.leadsTo_shutdown index
        (modest ⟨trivial, fun _ => rfl⟩ (Client.lasts_closed ⟨trivial, rfl⟩))
        (modest ⟨trivial, trivial⟩ trivial)
  | shutdownAndWait =>
      exact clients.leadsTo_shutdownAndWait index
        (modest ⟨trivial, fun _ => rfl⟩ (Client.lasts_closed ⟨trivial, rfl⟩))
        (modest ⟨trivial, trivial⟩ trivial)
        (modest ⟨trivial, fun _ => rfl⟩ (Client.lasts_awaited ⟨trivial, rfl⟩))
        (fun _ _ => modest ⟨trivial, trivial⟩ trivial) fun _ => modest ⟨trivial, trivial⟩ trivial

end Clients

namespace Service

variable (service : Service)

/-- What an operation leaves alone that has nothing to do with the user's choice. -/
structure Routine (before after : Service) : Prop where
  store : after.store = before.store
  current : after.current = before.current
  optedIn : after.optedIn = before.optedIn
  subscription : after.subscription = before.subscription
  released : after.released = before.released
  clients : Engine.LeadsTo QueueEvent.Tame before.clients after.clients

variable {before between after : Service}

theorem Routine.refl : service.Routine service := ⟨rfl, rfl, rfl, rfl, rfl, .refl _⟩

theorem Routine.trans (first : before.Routine between) (second : between.Routine after) :
    before.Routine after where
  store := second.store.trans first.store
  current := second.current.trans first.current
  optedIn := second.optedIn.trans first.optedIn
  subscription := second.subscription.trans first.subscription
  released := second.released.trans first.released
  clients := first.clients.trans second.clients

theorem Routine.of_clients {clients : Clients}
    (leads : Engine.LeadsTo QueueEvent.Tame service.clients clients) :
    service.Routine { service with clients } := ⟨rfl, rfl, rfl, rfl, rfl, leads⟩

theorem leadsTo_withClients {kind : QueueEvent Client → Prop}
    (lends : ∀ witness, kind (.lend witness)) {happen : Clients → Clients}
    (leads : ∀ clients : Clients, Engine.LeadsTo kind clients (happen clients)) :
    Engine.LeadsTo kind service.clients (service.withClients happen).clients := by
  have lent : Engine.LeadsTo kind service.clients service.lendClients :=
    .single service.clients (.lend service.witness?) (lends _)
  exact (lent.trans (leads _)).trans (.single _ (.lend none) (lends _))

theorem intercept_eq : ∃ token chain, service.intercept = { service with token, chain } := by
  unfold intercept
  split
  · exact ⟨service.token, service.chain, rfl⟩
  · exact ⟨_, _, rfl⟩

theorem stopIntercepting_eq :
    ∃ chain, service.stopIntercepting = { service with token := none, chain } := by
  unfold stopIntercepting
  split
  · rename_i none
    exact ⟨service.chain, by rw [← none]⟩
  · exact ⟨_, rfl⟩

theorem bridgePanics_eq :
    ∃ bridge panicHook, service.bridgePanics = { service with bridge, panicHook } := by
  unfold bridgePanics
  split
  · exact ⟨_, _, rfl⟩
  · exact ⟨service.bridge, service.panicHook, rfl⟩

theorem unbridgePanics_eq :
    ∃ panicHook, service.unbridgePanics = { service with bridge := none, panicHook } := by
  unfold unbridgePanics
  split
  · rename_i none
    exact ⟨service.panicHook, by rw [← none]⟩
  · exact ⟨_, rfl⟩

theorem stopListening_eq : ∃ listeners, service.stopListening =
    { service with
      subscription := none, store.store := { service.store.store with listeners } } := by
  unfold stopListening
  split
  · rename_i none
    exact ⟨service.store.store.listeners, by rw [← none]⟩
  · exact ⟨_, rfl⟩

theorem detach_eq : ∃ chain listeners panicHook, service.detach =
    { service with
      current := none, subscription := none, token := none, chain, bridge := none, panicHook,
      store.store := { service.store.store with listeners } } := by
  obtain ⟨chain, stopped⟩ := service.stopIntercepting_eq
  obtain ⟨listeners, silent⟩ := service.stopIntercepting.stopListening_eq
  obtain ⟨panicHook, unbridged⟩ := service.stopIntercepting.stopListening.unbridgePanics_eq
  refine ⟨chain, listeners, panicHook, ?_⟩
  unfold detach
  rw [unbridged, silent, stopped]

theorem clients_detach : service.detach.clients = service.clients := by
  obtain ⟨chain, listeners, panicHook, detached⟩ := service.detach_eq
  rw [detached]

theorem shutdown_eq :
    ∃ clients, service.shutdown.2 = { service.detach with clients } ∧
      Engine.LeadsTo QueueEvent.Modest service.detach.clients clients := by
  unfold shutdown
  split
  · exact ⟨service.detach.clients, rfl, .refl _⟩
  · rename_i index _
    have flushed : Engine.LeadsTo QueueEvent.Modest service.detach.clients
        (Engine.flush service.detach.clients index).2 :=
      .single service.detach.clients (.flush index) ⟨trivial, trivial⟩
    dsimp only
    split
    · exact ⟨_, rfl, flushed⟩
    · exact ⟨_, rfl, flushed.trans (Clients.leadsTo_shutdownAndWait _ index
        ⟨trivial, fun _ => rfl⟩ ⟨trivial, trivial⟩ ⟨trivial, fun _ => rfl⟩
        (fun _ _ => ⟨trivial, trivial⟩) fun _ => ⟨trivial, trivial⟩)⟩

theorem routine_intercept : service.Routine service.intercept := by
  obtain ⟨token, chain, same⟩ := service.intercept_eq
  rw [same]
  exact ⟨rfl, rfl, rfl, rfl, rfl, .refl _⟩

theorem routine_stopIntercepting : service.Routine service.stopIntercepting := by
  obtain ⟨chain, same⟩ := service.stopIntercepting_eq
  rw [same]
  exact ⟨rfl, rfl, rfl, rfl, rfl, .refl _⟩

theorem routine_setDryRun (dryRun : Bool) : service.Routine (service.setDryRun dryRun) := by
  unfold setDryRun
  dsimp only
  split
  · exact ⟨rfl, rfl, rfl, rfl, rfl, .refl _⟩
  · rename_i index _
    exact ⟨rfl, rfl, rfl, rfl, rfl, service.clients.leadsTo_setDryRun index dryRun fun _ => rfl⟩

theorem routine_send (hit : Hit) : service.Routine (service.send hit).2 := by
  unfold send
  split
  · exact .refl service
  · exact .of_clients service (service.clients.leadsTo_send _ hit trivial)

theorem report_sends (report : Report) : ∃ hit, service.report report = service.send hit := by
  cases report with
  | screen name => exact ⟨_, rfl⟩
  | screenOfType typeName => exact ⟨_, rfl⟩
  | event event => exact ⟨_, rfl⟩
  | error error fatal => exact ⟨_, rfl⟩
  | failure description fatal => exact ⟨_, rfl⟩

theorem routine_report (report : Report) : service.Routine (service.report report).2 := by
  obtain ⟨hit, same⟩ := service.report_sends report
  rw [same]
  exact service.routine_send hit

theorem routine_flush : service.Routine service.flush.2 := by
  unfold flush
  split
  · exact .refl service
  · rename_i index _
    exact .of_clients service (service.leadsTo_withClients (fun _ => trivial)
      fun clients => .single clients (.flush index) trivial)

/-- What sending a hit and writing it down preserve, handing an error to the chain preserves. -/
theorem dispatch_preserves (holds : Service → Prop)
    (sends : ∀ service hit, holds service → holds (service.send hit).2)
    (records : ∀ service records, holds service → holds { service with records })
    (exception : UncaughtException) (service : Service) (start : holds service) :
    holds (service.dispatch exception) := by
  have called (service : Service) (member : ChainMember) (held : holds service) :
      holds (callMember exception service member) := by
    cases member with
    | recorder name => exact records service _ held
    | service =>
        simp only [callMember]
        split
        · exact held
        · exact sends service _ held
  unfold dispatch
  induction service.chain.handlers generalizing service with
  | nil => exact start
  | cons member rest ih => exact ih _ (called service member start)

theorem panic_preserves (holds : Service → Prop)
    (sends : ∀ service hit, holds service → holds (service.send hit).2)
    (records : ∀ service records, holds service → holds { service with records })
    (exception : UncaughtException) (service : Service) (start : holds service) :
    holds (service.panic exception) := by
  unfold panic
  induction service.panicHook.chains generalizing service with
  | nil => exact start
  | cons chain rest ih =>
      exact ih _ (dispatch_preserves holds sends records exception service start)

theorem routine_records {service : Service} (records : List (String × String))
    (routine : before.Routine service) : before.Routine { service with records } :=
  routine.trans ⟨rfl, rfl, rfl, rfl, rfl, .refl _⟩

theorem routine_dispatch (exception : UncaughtException) :
    service.Routine (service.dispatch exception) :=
  dispatch_preserves service.Routine (fun later hit held => held.trans (later.routine_send hit))
    (fun _ records => routine_records records) exception service (.refl service)

theorem routine_panic (exception : UncaughtException) :
    service.Routine (service.panic exception) :=
  panic_preserves service.Routine (fun later hit held => held.trans (later.routine_send hit))
    (fun _ records => routine_records records) exception service (.refl service)

theorem routine_withClients (happen : Clients → Clients)
    (leads : ∀ clients : Clients, Engine.LeadsTo QueueEvent.Tame clients (happen clients)) :
    service.Routine (service.withClients happen) :=
  ⟨rfl, rfl, rfl, rfl, rfl, service.leadsTo_withClients (fun _ => trivial) leads⟩

end Service

/-- Operations that neither start or stop anything nor touch the user's choice. -/
def Operation.IsPlain : Operation → Prop
  | .start | .restart | .shutdown | .detach | .setOptIn _ | .change _ _
  | .onClient _ (.setEnabled _) => False
  | _ => True

theorem Service.routine_perform (service : Service) {operation : Operation}
    (plain : operation.IsPlain) : service.Routine (service.perform operation) := by
  cases operation with
  | setDryRun dryRun => exact service.routine_setDryRun dryRun
  | intercept => exact service.routine_intercept
  | stopIntercepting => exact service.routine_stopIntercepting
  | report report => exact service.routine_report report
  | flush => exact service.routine_flush
  | dispatch exception => exact service.routine_dispatch exception
  | panic exception => exact service.routine_panic exception
  | resupply supply => exact ⟨rfl, rfl, rfl, rfl, rfl, .refl _⟩
  | onClient index operation =>
      have other : ∀ enabled, operation ≠ .setEnabled enabled := by
        intro enabled same
        rw [same] at plain
        exact plain
      exact service.routine_withClients (Clients.perform · index operation) fun clients =>
        (clients.leadsTo_perform index operation).weaken fun _ kept => kept.1 other
  | forget index =>
      simp only [perform]
      split
      · exact .refl service
      · exact .of_clients service (service.clients.leadsTo_release index trivial)
  | enlist name => exact ⟨rfl, rfl, rfl, rfl, rfl, .refl _⟩
  | dismiss number =>
      simp only [perform]
      split
      · exact .refl service
      · exact ⟨rfl, rfl, rfl, rfl, rfl, .refl _⟩
  | setTerminal name => exact ⟨rfl, rfl, rfl, rfl, rfl, .refl _⟩
  | go index place =>
      exact service.routine_withClients (Engine.after · (.go index place)) fun clients =>
        .single clients _ trivial
  | tick milliseconds =>
      exact service.routine_withClients (Engine.after · (.tick milliseconds)) fun clients =>
        .single clients _ trivial
  | sleep milliseconds =>
      exact service.routine_withClients (Engine.sleep · milliseconds) fun clients =>
        Engine.leadsTo_sleep (fun _ _ => trivial) (fun _ => trivial) clients milliseconds
  | _ => exact plain.elim

end Telemetry
