import Telemetry.Proofs.Service.Choice

/-! Operations taken apart into moves. A move does one thing to the clients, to the store or to the
registrations of a service; the current client changes only when it is parted with or a new one is
built. What every move preserves, every operation preserves. -/

namespace Telemetry

open Relation

namespace Clients

variable {before after clients : Clients} {index : Nat} {shut : Nat → Prop}

theorem lasts_client (leads : Engine.LeadsTo (QueueEvent.Lasting shut) before after)
    {former : Client} (found : before.client? index = some former) :
    ∃ client, after.client? index = some client ∧ former.Lasts (shut index) client := by
  refine Engine.LeadsTo.preserves
    (fun clients => ∃ client, client? clients index = some client ∧
      former.Lasts (shut index) client)
    (fun clients event lasting held => ?_) leads ⟨former, found, .refl _ former⟩
  obtain ⟨client, there, lasted⟩ := held
  obtain ⟨task, present, rfl⟩ := Option.map_eq_some_iff.mp there
  obtain ⟨next, reached, course⟩ := Engine.task_after clients event present
  refine ⟨next.owner, Option.map_eq_some_iff.mpr ⟨next, reached, rfl⟩, ?_⟩
  refine course.preserves (former.Lasts (shut index) ·.owner) (fun change kept => ?_) lasted
  rcases change.owner with same | ⟨adjust, asked, moved⟩
  · rw [same]
    exact kept
  · rw [asked] at lasting
    rw [moved]
    exact kept.trans (lasting _)

theorem length_lasting (leads : Engine.LeadsTo (QueueEvent.Lasting shut) before after) :
    after.tasks.length = before.tasks.length := by
  refine Engine.LeadsTo.preserves (·.tasks.length = before.tasks.length)
    (fun clients event lasting held => ?_) leads rfl
  rcases clients.after_cases event with ⟨owner, courier, config, rfl⟩ | continues
  · exact lasting.elim
  · exact continues.length.trans held

theorem lasts_former (leads : Engine.LeadsTo (QueueEvent.Lasting shut) before after)
    {client : Client} (found : after.client? index = some client) :
    ∃ former, before.client? index = some former ∧ former.Lasts (shut index) client := by
  obtain ⟨task, present, _⟩ := Option.map_eq_some_iff.mp found
  have inside : index < before.tasks.length :=
    length_lasting leads ▸ (List.getElem?_eq_some_iff.mp present).1
  have former : before.client? index = some (before.tasks[index]).owner :=
    Option.map_eq_some_iff.mpr ⟨_, List.getElem?_eq_getElem inside, rfl⟩
  obtain ⟨later, there, lasted⟩ := lasts_client leads former
  cases found.symm.trans there
  exact ⟨_, former, lasted⟩

def IsClosed (clients : Clients) (index : Nat) : Prop :=
  ∀ client, clients.client? index = some client → client.closed = true

theorem IsClosed.leadsTo (closed : before.IsClosed index)
    (leads : Engine.LeadsTo (QueueEvent.Lasting shut) before after) : after.IsClosed index := by
  intro client found
  obtain ⟨former, there, lasts⟩ := lasts_former leads found
  exact lasts.closed (closed former there)

theorem isClosed_shutdown (clients : Clients) (index : Nat) :
    (clients.shutdown index).IsClosed index := by
  unfold shutdown
  cases found : clients.client? index with
  | none =>
      intro client there
      cases found.symm.trans there
  | some owner =>
      dsimp only
      split
      · rename_i closed
        intro client there
        cases found.symm.trans there
        exact closed
      · have marked : (clients.modifyClient index fun client =>
            { client with closed := true }).IsClosed index := by
          obtain ⟨task, present, _⟩ := Option.map_eq_some_iff.mp found
          intro client there
          unfold client? modifyClient at there
          rw [Engine.task_modify, if_pos rfl, present] at there
          cases there
          rfl
        have released (clients : Clients) :
            Engine.LeadsTo (QueueEvent.Lasting fun _ => False) clients (clients.release index) :=
          clients.leadsTo_release index trivial
        exact marked.leadsTo (released _)

theorem isClosed_shutdownAndWait (clients : Clients) (index : Nat) :
    (clients.shutdownAndWait index).IsClosed index := by
  have closed := clients.isClosed_shutdown index
  unfold shutdownAndWait
  dsimp only
  split
  · exact closed
  · split
    · exact closed
    · have waited : Engine.LeadsTo (QueueEvent.Lasting fun _ => True) (clients.shutdown index) _ :=
        (Engine.LeadsTo.single _ (.adjust index fun client => { client with awaited := true })
          (Client.lasts_awaited trivial)).trans
          (leadsTo_await _ index (fun _ _ => trivial) fun _ => trivial)
      exact closed.leadsTo waited

theorem send_closed (closed : clients.IsClosed index) (hit : Hit) :
    clients.send index hit = (.error .closed, clients) := by
  unfold send
  split
  · rfl
  · rename_i client found
    rw [if_pos (closed client found)]

end Clients

def Operation.Shuts : Operation → Nat → Prop
  | .onClient index operation, place => operation.Shuts ∧ index = place
  | _, _ => False

def Operation.Asks (fits : StoreStep → Prop) : Operation → Prop
  | .change step _ => fits step
  | _ => True

namespace Service

inductive Move (fits : StoreStep → Prop) (operation : Operation) (before : Service) :
    Service → Prop where
  | clients {clients : Clients}
      (leads : Engine.LeadsTo (QueueEvent.Lasting operation.Shuts) before.clients clients) :
      Move fits operation before { before with clients }
  /-- The service lets go of its client, which is closed unless its last flush is not over or has
  ended by a panic. -/
  | part {index : Nat} {clients : Clients} (held : before.current = some index)
      (leads : Engine.LeadsTo (QueueEvent.Lasting (index = ·)) before.clients clients)
      (closes : operation ≠ .detach → before.clients.outbox.Returns → clients.IsClosed index) :
      Move fits operation before { before with current := none, clients }
  | build {settings : Settings} {id : String} (idle : before.current = none)
      (obtained : before.store.obtainId.1 = .ok id)
      (checked : (before.clientConfig settings).check Url.parse settings.identity true
        before.courier.isSome = .ok ()) :
      Move fits operation before
        { before with
          store := before.store.obtainId.2
          clients := Clients.launch before.clients ⟨settings.identity, id⟩
            (before.clientConfig settings) before.courier
          current := some before.clients.tasks.length }
  | obtain : Move fits operation before { before with store := before.store.obtainId.2 }
  | store {frame : StoreFrame} (suits : StoreSession.Fits fits frame) :
      Move fits operation before { before with store := (before.store.step frame).2 }
  | aside {after : Service} (clients : after.clients = before.clients)
      (current : after.current = before.current) (courier : after.courier = before.courier)
      (policy : after.policy = before.policy)
      (store : ∃ listeners, after.store =
        { before.store with store := { before.store.store with listeners } }) :
      Move fits operation before after

abbrev Moves (fits : StoreStep → Prop) (operation : Operation) : Service → Service → Prop :=
  ReflTransGen (Move fits operation)

theorem Moves.preserves {fits : StoreStep → Prop} {operation : Operation}
    (holds : Service → Prop) {before after : Service} (moves : Moves fits operation before after)
    (move : ∀ {service next : Service}, Move fits operation service next → holds service →
      holds next)
    (start : holds before) : holds after := by
  induction moves with
  | refl => exact start
  | tail _ last ih => exact move last ih

variable {fits : StoreStep → Prop} {operation : Operation} {service after : Service}

theorem Move.registers (clients : after.clients = service.clients)
    (current : after.current = service.current) (courier : after.courier = service.courier)
    (policy : after.policy = service.policy) (store : after.store = service.store) :
    Move fits operation service after :=
  .aside clients current courier policy ⟨service.store.store.listeners, store⟩

theorem Move.obeys (conduct : StoreStep.IsConduct fits) (move : Move fits operation service after)
    (obeys : service.store.Obeys fits) : after.store.Obeys fits := by
  have obtained : service.store.obtainId.2.Obeys fits :=
    (obeys.obtainId conduct (fun _ => True) (fun _ _ _ _ => trivial) trivial).2
  cases move with
  | clients leads => exact obeys
  | part held leads closes => exact obeys
  | build idle obtains checked => exact obtained
  | obtain => exact obtained
  | store suits => exact (obeys.step conduct suits).1
  | aside clients current courier policy store =>
      obtain ⟨listeners, same⟩ := store
      rw [same]
      exact obeys

theorem moves_log (service : Service) (events : List LogEvent) :
    Moves fits operation service (service.log events) :=
  .single (.clients (.single service.clients (.log events) trivial))

theorem moves_stopIntercepting (service : Service) :
    Moves fits operation service service.stopIntercepting := by
  obtain ⟨chain, stopped⟩ := service.stopIntercepting_eq
  rw [stopped]
  exact .single (.registers rfl rfl rfl rfl rfl)

theorem moves_applyChoice (service : Service) (index : Nat) (enabled : Bool) :
    Moves fits operation service (service.applyChoice index enabled) := by
  have noted : Move fits operation service { service with optedIn := enabled } :=
    .registers rfl rfl rfl rfl rfl
  exact .tail (.single noted) (.clients (Clients.leadsTo_setEnabled service.clients index enabled
    fun client => client.lasts_switched enabled client.dryRun))

theorem moves_startUsing {index : Nat} (held : service.current = some index) :
    Moves fits operation service (service.startUsing index).2 := by
  obtain ⟨token, chain, bridge, panicHook, ⟨fault, _, used⟩ | ⟨enabled, _, used⟩⟩ :=
    service.startUsing_cases index
  · rw [used]
    exact .single (.registers rfl held.symm rfl rfl rfl)
  · rw [used]
    have ready : Move fits operation service
        { service with current := some index, token, chain, bridge, panicHook } :=
      .registers rfl held.symm rfl rfl rfl
    refine (ReflTransGen.single ready).trans ((moves_applyChoice _ index enabled).trans ?_)
    obtain ⟨subscription, listeners, listening⟩ := listen_eq
      (({ service with current := some index, token, chain, bridge, panicHook } :
        Service).applyChoice index enabled)
    rw [listening]
    exact .single (.aside rfl rfl rfl rfl ⟨listeners, rfl⟩)

theorem moves_loading (service : Service) : Moves fits operation service service.loading := by
  have loaded : Move fits operation service { service with supply := service.supply.afterLoad } :=
    .registers rfl rfl rfl rfl rfl
  exact (ReflTransGen.single loaded).trans (moves_log _ _)

theorem moves_start (service : Service) : Moves fits operation service service.start.2 := by
  unfold start
  cases held : service.current with
  | some index => exact moves_startUsing held
  | none =>
      have building := service.building_buildClient
      have loaded : Moves fits operation service service.loading := service.moves_loading
      generalize service.buildClient = outcome at building ⊢
      cases building with
      | unsupplied failed => exact loaded
      | unidentified settled failed => exact loaded.tail .obtain
      | refused settled obtained failed => exact loaded.tail .obtain
      | launched settled obtained checked =>
          have idle : service.loading.current = none := held
          have built := loaded.tail (.build idle obtained checked)
          exact built.trans (moves_startUsing rfl)

theorem moves_dropClient (service : Service) :
    Moves fits operation service service.dropClient := by
  unfold dropClient
  cases held : service.current with
  | none => exact .refl
  | some index =>
      refine .single (.part held ?_ ?_)
      · exact Clients.leadsTo_shutdown service.clients index (Client.lasts_closed rfl) trivial
      · exact fun _ _ => Clients.isClosed_shutdown service.clients index

theorem moves_restart (service : Service) : Moves fits operation service service.restart.2 :=
  service.moves_dropClient.trans
    (service.dropClient.moves_stopIntercepting.trans (moves_start _))

theorem moves_setOptIn (service : Service) (enabled : Bool) :
    Moves fits operation service (service.setOptIn enabled).2 := by
  unfold setOptIn
  split
  · exact .refl
  · exact service.moves_applyChoice _ enabled

theorem moves_followChoice (service : Service) :
    Moves fits operation service service.followChoice := by
  unfold followChoice
  split
  · exact .refl
  · split
    · exact service.moves_log _
    · rename_i enabled _
      have applied : Moves fits operation service (service.setOptIn enabled).2 :=
        service.moves_setOptIn enabled
      have noted := applied.trans (moves_log _ [.optInNotApplied])
      dsimp only
      split
      · split
        · exact (noted.trans (moves_restart _)).trans (moves_log _ _)
        · exact (applied.trans (moves_restart _)).trans (moves_log _ _)
      · split
        · exact noted.trans (moves_restart _)
        · exact applied.trans (moves_restart _)

theorem moves_run (conduct : StoreStep.IsConduct fits) (service : Service)
    {agenda : List StoreFrame} (obeys : service.store.Obeys fits)
    (suits : ∀ frame ∈ agenda, StoreSession.Fits fits frame) :
    Moves fits operation service (service.run agenda) := by
  fun_induction Service.run service agenda with
  | case1 service => exact .refl
  | case2 service frame rest ih =>
      obtain ⟨first, others⟩ := List.forall_mem_cons.mp suits
      have moved : Moves fits operation service (service.step frame).2 ∧
          ∀ next ∈ (service.step frame).1, StoreSession.Fits fits next := by
        rcases service.step_cases frame with
          ⟨_, followed⟩ | ⟨_, _, _, unmoved⟩ | ⟨_, passed⟩
        · rw [followed]
          exact ⟨service.moves_followChoice, List.forall_mem_nil _⟩
        · rw [unmoved]
          exact ⟨.refl, List.forall_mem_nil _⟩
        · rw [passed]
          exact ⟨.single (.store first), (obeys.step conduct first).2⟩
      have kept : (service.step frame).2.store.Obeys fits :=
        moved.1.preserves (·.store.Obeys fits) (fun move => move.obeys conduct) obeys
      exact moved.1.trans (ih kept (List.forall_mem_append.mpr ⟨moved.2, others⟩))

theorem moves_stopListening (service : Service) :
    Moves fits operation service service.stopListening := by
  obtain ⟨listeners, silent⟩ := service.stopListening_eq
  rw [silent]
  exact .single (.aside rfl rfl rfl rfl ⟨listeners, rfl⟩)

theorem moves_unregister (service : Service) :
    Moves fits operation service service.stopIntercepting.stopListening.unbridgePanics := by
  obtain ⟨panicHook, unbridged⟩ := service.stopIntercepting.stopListening.unbridgePanics_eq
  rw [unbridged]
  exact (service.moves_stopIntercepting.trans (moves_stopListening _)).tail
    (.registers rfl rfl rfl rfl rfl)

theorem current_unregister (service : Service) :
    service.stopIntercepting.stopListening.unbridgePanics.current = service.current := by
  obtain ⟨chain, stopped⟩ := service.stopIntercepting_eq
  obtain ⟨listeners, silent⟩ := service.stopIntercepting.stopListening_eq
  obtain ⟨panicHook, unbridged⟩ := service.stopIntercepting.stopListening.unbridgePanics_eq
  rw [unbridged, silent, stopped]

theorem moves_detach (service : Service) :
    Moves fits .detach service service.detach := by
  have unregistered : Moves fits .detach service _ := service.moves_unregister
  have current := service.current_unregister
  unfold detach
  generalize service.stopIntercepting.stopListening.unbridgePanics = alone at unregistered current
  cases held : alone.current with
  | none =>
      have same : { alone with current := none } = alone := by rw [← held]
      rw [same]
      exact unregistered
  | some index =>
      exact unregistered.tail (.part held (.refl alone.clients) fun whole => absurd rfl whole)

theorem moves_shutdown (service : Service) :
    Moves fits .shutdown service service.shutdown.2 := by
  have unregistered : Moves fits .shutdown service _ := service.moves_unregister
  have current := service.current_unregister
  unfold shutdown detach
  generalize service.stopIntercepting.stopListening.unbridgePanics = alone at unregistered current ⊢
  cases held : service.current with
  | none =>
      have same : { alone with current := none } = alone := by rw [← held, ← current]
      rw [same]
      exact unregistered
  | some index =>
      have flushed : Engine.LeadsTo (QueueEvent.Lasting (index = ·)) alone.clients
          (Engine.flush alone.clients index).2 :=
        .single alone.clients (.flush index) trivial
      dsimp only
      split
      · rename_i message panicked
        refine unregistered.tail (.part (current.trans held) flushed ?_)
        exact fun _ returns => absurd panicked (Engine.flush_answers returns index message)
      · refine unregistered.tail (.part (current.trans held) (flushed.trans ?_) ?_)
        · exact Clients.leadsTo_shutdownAndWait _ index (Client.lasts_closed rfl) trivial
            (Client.lasts_awaited rfl) (fun _ _ => trivial) fun _ => trivial
        · exact fun _ _ => Clients.isClosed_shutdownAndWait _ index

theorem moves_withClients (service : Service) (happen : Clients → Clients)
    (leads : ∀ clients : Clients,
      Engine.LeadsTo (QueueEvent.Lasting operation.Shuts) clients (happen clients)) :
    Moves fits operation service (service.withClients happen) :=
  .single (.clients (service.leadsTo_withClients (fun _ => trivial) leads))

theorem Moves.send (moves : Moves fits operation service after) (hit : Hit) :
    Moves fits operation service (after.send hit).2 := by
  unfold Service.send
  split
  · exact moves
  · exact moves.tail (.clients (Clients.leadsTo_send after.clients _ hit trivial))

theorem Moves.records (moves : Moves fits operation service after)
    (records : List (String × String)) :
    Moves fits operation service { after with records } :=
  moves.tail (.registers rfl rfl rfl rfl rfl)

theorem moves_perform (conduct : StoreStep.IsConduct fits) (service : Service)
    (obeys : service.store.Obeys fits) {operation : Operation} (asks : operation.Asks fits) :
    Moves fits operation service (service.perform operation) := by
  cases operation with
  | start => exact service.moves_start
  | restart => exact service.moves_restart
  | shutdown => exact service.moves_shutdown
  | detach => exact service.moves_detach
  | setOptIn enabled => exact service.moves_setOptIn enabled
  | setDryRun dryRun =>
      have chosen : Move fits (.setDryRun dryRun) service
          { service with dryRunChoice := some dryRun } := .registers rfl rfl rfl rfl rfl
      simp only [perform, setDryRun]
      split
      · exact .single chosen
      · exact .tail (.single chosen) (.clients (Clients.leadsTo_setDryRun service.clients _ dryRun
          fun client => client.lasts_switched client.enabled dryRun))
  | intercept =>
      obtain ⟨token, chain, same⟩ := service.intercept_eq
      simp only [perform, same]
      exact .single (.registers rfl rfl rfl rfl rfl)
  | stopIntercepting => exact service.moves_stopIntercepting
  | report report =>
      obtain ⟨hit, same⟩ := service.report_sends report
      simp only [perform, same]
      exact Moves.send .refl hit
  | flush =>
      simp only [perform, flush]
      split
      · exact .refl
      · rename_i index _
        exact .single (.clients (service.leadsTo_withClients (fun _ => trivial) fun clients =>
          .single clients (.flush index) trivial))
  | dispatch exception =>
      exact dispatch_preserves (Moves fits _ service) (fun _ hit moves => moves.send hit)
        (fun _ records moves => moves.records records) exception service .refl
  | panic exception =>
      exact panic_preserves (Moves fits _ service) (fun _ hit moves => moves.send hit)
        (fun _ records moves => moves.records records) exception service .refl
  | change step stays =>
      apply moves_run conduct service obeys
      intro frame member
      rw [List.mem_singleton.mp member]
      exact List.forall_mem_singleton.mpr asks
  | resupply supply => exact .single (.registers rfl rfl rfl rfl rfl)
  | onClient index operation =>
      exact service.moves_withClients (Clients.perform · index operation) fun clients =>
        (clients.leadsTo_perform index operation).weaken fun _ told => told.2.2
  | forget index =>
      simp only [perform]
      split
      · exact .refl
      · exact .single (.clients (Clients.leadsTo_release service.clients index trivial))
  | enlist name => exact .single (.registers rfl rfl rfl rfl rfl)
  | dismiss number =>
      simp only [perform]
      split
      · exact .refl
      · exact .single (.registers rfl rfl rfl rfl rfl)
  | setTerminal name => exact .single (.registers rfl rfl rfl rfl rfl)
  | go index place =>
      exact service.moves_withClients (Engine.after · (.go index place)) fun clients =>
        .single clients _ trivial
  | tick milliseconds =>
      exact service.moves_withClients (Engine.after · (.tick milliseconds)) fun clients =>
        .single clients _ trivial
  | sleep milliseconds =>
      exact service.moves_withClients (Engine.sleep · milliseconds) fun clients =>
        Engine.leadsTo_sleep (fun _ _ => trivial) (fun _ => trivial) clients milliseconds

theorem obeys_course (conduct : StoreStep.IsConduct fits) {operations : List Operation}
    (asks : ∀ operation ∈ operations, operation.Asks fits) (obeys : service.store.Obeys fits) :
    (service.course operations).store.Obeys fits :=
  course_preserves (·.store.Obeys fits)
    (fun reached operation member held =>
      (moves_perform conduct reached held (asks operation member)).preserves (·.store.Obeys fits)
        (fun move => move.obeys conduct) held)
    obeys

end Service

end Telemetry
