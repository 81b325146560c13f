import Telemetry.Proofs.Service.Gate
import Telemetry.Proofs.Service.Moves

/-! How long a service keeps a client, step by step. One step of a run is an operation, or one frame
of what follows from a change of the preferences. A step leaves the service with the client that it
had, with none, or with one that was built from settings loaded in this very step. -/

namespace Telemetry

/-- What the application says about pretending to send, for this and all later clients. -/
def Operation.pretence? : Operation → Option Bool
  | .setDryRun dryRun => some dryRun
  | _ => none

/-- Somebody tells a single client to pretend to send, or to send again. -/
def Operation.Meddles : Operation → Prop
  | .onClient _ (.setDryRun _) => True
  | _ => False

/-! ### Clients that are left in use -/

/-- Events that close the client with the index only if it may be shut, and tell it to pretend only if
somebody meddles. -/
def QueueEvent.Spares (index : Nat) (shut meddled : Prop) : QueueEvent Client → Prop
  | .close place => place = index → shut
  | .adjust place change => place = index → ∀ client : Client,
      (¬shut → (change client).closed = client.closed) ∧
        (¬meddled → (change client).dryRun = client.dryRun)
  | _ => True

/-- A client that does not say that it is closed has a queue that takes hits. -/
def Task.Receptive (task : Task Client) : Prop :=
  task.owner.closed = false → task.queue.closed = false

namespace Clients

variable {before after clients : Clients} {index place : Nat} {shut meddled : Prop}

theorem spared (leads : Engine.LeadsTo (QueueEvent.Spares index shut meddled) before after)
    {task : Task Client} (found : before.tasks[index]? = some task) :
    ∃ next, after.tasks[index]? = some next ∧
      (¬shut → next.owner.closed = task.owner.closed ∧ next.queue.closed = task.queue.closed) ∧
      (¬meddled → next.owner.dryRun = task.owner.dryRun) := by
  refine Engine.LeadsTo.preserves
    (fun clients => ∃ next, clients.tasks[index]? = some next ∧
      (¬shut → next.owner.closed = task.owner.closed ∧ next.queue.closed = task.queue.closed) ∧
      (¬meddled → next.owner.dryRun = task.owner.dryRun))
    (fun clients event spares held => ?_) leads
    ⟨task, found, fun _ => ⟨rfl, rfl⟩, fun _ => rfl⟩
  obtain ⟨last, there, closed, dryRun⟩ := held
  obtain ⟨next, reached, course⟩ := Engine.task_after clients event there
  refine ⟨next, reached, ?_⟩
  refine course.preserves
    (fun next => (¬shut → next.owner.closed = task.owner.closed ∧
        next.queue.closed = task.queue.closed) ∧
      (¬meddled → next.owner.dryRun = task.owner.dryRun))
    (fun change kept => ?_) ⟨closed, dryRun⟩
  have queue (unshut : ¬shut) : event ≠ .close index := by
    rintro rfl
    exact unshut (spares rfl)
  rcases change.owner with same | ⟨adjust, asked, moved⟩
  · rw [same]
    exact ⟨fun unshut => ⟨(kept.1 unshut).1,
      (change.closed (queue unshut)).trans (kept.1 unshut).2⟩, kept.2⟩
  · rw [asked] at spares
    rw [moved]
    exact ⟨fun unshut => ⟨((spares rfl _).1 unshut).trans (kept.1 unshut).1,
        (change.closed (queue unshut)).trans (kept.1 unshut).2⟩,
      fun unmeddled => ((spares rfl _).2 unmeddled).trans (kept.2 unmeddled)⟩

theorem receptive_launch (clients : Clients) (origin : Origin) (config : ClientConfig)
    (courier : Option Nat) :
    ∃ task, (clients.launch origin config courier).tasks[clients.tasks.length]? = some task ∧
      task.Receptive ∧ task.owner.dryRun = config.dryRun := by
  obtain ⟨number, turn, launched⟩ := clients.tasks_launch origin config courier
  rw [launched]
  exact ⟨_, List.getElem?_concat_length, fun _ => rfl, rfl⟩

end Clients

namespace Service

/-- Nothing is started or stopped, and nobody says anything about pretending. -/
structure Carries (before after : Service) : Prop where
  current : after.current = before.current
  choice : after.dryRunChoice = before.dryRunChoice
  clients : ∀ index, Engine.LeadsTo (QueueEvent.Spares index False False) before.clients
    after.clients

/-- What a step makes of the client in use. -/
inductive Turn (operation : Operation) (before after : Service) : Prop where
  /-- It stays the same, and sends or pretends as before, unless somebody says something. -/
  | kept (current : after.current = before.current)
      (choice : after.dryRunChoice = operation.pretence?.or before.dryRunChoice)
      (tasks : ∀ index task, before.current = some index →
        before.clients.tasks[index]? = some task →
          ∃ next, after.clients.tasks[index]? = some next ∧ (task.Receptive → next.Receptive) ∧
            (¬operation.Meddles →
              next.owner.dryRun = operation.pretence?.getD task.owner.dryRun))
  | left (idle : after.current = none)
      (choice : after.dryRunChoice = operation.pretence?.or before.dryRunChoice)
  /-- It is a new one, which the settings that have just been loaded and the choice that the
  application has made decide about. -/
  | built {settings : Settings} {index : Nat} {task : Task Client}
      (loaded : (before.supply.load before.store.disk).1 = .ok settings)
      (current : after.current = some index) (new : before.clients.tasks.length ≤ index)
      (found : after.clients.tasks[index]? = some task) (receptive : task.Receptive)
      (dryRun : task.owner.dryRun = after.dryRunChoice.getD settings.delivery.dryRun)
      (choice : after.dryRunChoice = operation.pretence?.or before.dryRunChoice)

variable {operation : Operation} {service before between after : Service}

theorem Carries.refl (service : Service) : service.Carries service := ⟨rfl, rfl, fun _ => .refl _⟩

theorem Carries.trans (first : before.Carries between) (second : between.Carries after) :
    before.Carries after where
  current := second.current.trans first.current
  choice := second.choice.trans first.choice
  clients := fun index => (first.clients index).trans (second.clients index)

theorem Carries.of_clients {clients : Clients}
    (leads : ∀ index, Engine.LeadsTo (QueueEvent.Spares index False False) service.clients
      clients) : service.Carries { service with clients } := ⟨rfl, rfl, leads⟩

theorem Turn.of_spared (plain : operation.pretence? = none) (shut : Prop)
    (current : after.current = before.current) (choice : after.dryRunChoice = before.dryRunChoice)
    (leads : ∀ index, before.current = some index →
      Engine.LeadsTo (QueueEvent.Spares index shut operation.Meddles) before.clients
        after.clients)
    (shuts : shut → ∀ index, before.current = some index → after.clients.IsClosed index) :
    Turn operation before after := by
  refine .kept current ?_ ?_
  · rw [plain, choice]
    rfl
  · intro index task held found
    obtain ⟨next, there, closed, dryRun⟩ := Clients.spared (leads index held) found
    refine ⟨next, there, ?_, ?_⟩
    · intro receptive opened
      by_cases shutting : shut
      · -- a client that is shut says so, and then its queue does not matter
        have ended := shuts shutting index held next.owner
          (Option.map_eq_some_iff.mpr ⟨next, there, rfl⟩)
        cases ended.symm.trans opened
      · obtain ⟨owner, queue⟩ := closed shutting
        rw [queue]
        exact receptive (owner ▸ opened)
    · rw [plain]
      exact dryRun

theorem Carries.turn (carries : before.Carries after) (plain : operation.pretence? = none) :
    Turn operation before after := by
  refine .of_spared plain False carries.current carries.choice (fun index _ => ?_) False.elim
  refine (carries.clients index).weaken fun event spares => ?_
  cases event with
  | adjust place change =>
      exact fun same client => ⟨(spares same client).1, fun _ => (spares same client).2 id⟩
  | _ => exact spares

theorem Turn.carries (turn : Turn operation before between) (carries : between.Carries after) :
    Turn operation before after := by
  have on {index : Nat} {task : Task Client} (found : between.clients.tasks[index]? = some task) :
      ∃ next, after.clients.tasks[index]? = some next ∧ (task.Receptive → next.Receptive) ∧
        next.owner.dryRun = task.owner.dryRun := by
    obtain ⟨next, there, closed, dryRun⟩ := Clients.spared (carries.clients index) found
    obtain ⟨owner, queue⟩ := closed id
    refine ⟨next, there, ?_, dryRun id⟩
    unfold Task.Receptive
    rw [owner, queue]
    exact id
  cases turn with
  | kept current choice tasks =>
      refine .kept (carries.current.trans current) (carries.choice.trans choice) ?_
      intro index task held found
      obtain ⟨midway, there, receptive, dryRun⟩ := tasks index task held found
      obtain ⟨next, reached, still, same⟩ := on there
      exact ⟨next, reached, still ∘ receptive, fun unmeddled => same.trans (dryRun unmeddled)⟩
  | left idle choice => exact .left (carries.current.trans idle) (carries.choice.trans choice)
  | built loaded current new found receptive dryRun choice =>
      obtain ⟨next, reached, still, same⟩ := on found
      refine .built loaded (carries.current.trans current) new reached (still receptive) ?_
        (carries.choice.trans choice)
      rw [same, dryRun, carries.choice]

theorem Turn.begin (supply : between.supply = before.supply)
    (disk : between.store.disk = before.store.disk)
    (choice : between.dryRunChoice = before.dryRunChoice) (idle : between.current = none)
    (length : between.clients.tasks.length = before.clients.tasks.length)
    (turn : Turn operation between after) : Turn operation before after := by
  cases turn with
  | kept current chosen tasks => exact .left (current.trans idle) (choice ▸ chosen)
  | left idle chosen => exact .left idle (choice ▸ chosen)
  | built loaded current new found receptive dryRun chosen =>
      rw [supply, disk] at loaded
      exact .built loaded current (length ▸ new) found receptive dryRun (choice ▸ chosen)

/-! ### Starting -/

theorem carries_log (service : Service) (events : List LogEvent) :
    service.Carries (service.log events) :=
  .of_clients fun _ => .single service.clients (.log events) trivial

theorem carries_send (service : Service) (hit : Hit) : service.Carries (service.send hit).2 := by
  unfold send
  split
  · exact .refl service
  · exact .of_clients fun _ => service.clients.leadsTo_send _ hit trivial

theorem carries_applyChoice (service : Service) (index : Nat) (enabled : Bool) :
    service.Carries (service.applyChoice index enabled) :=
  ⟨rfl, rfl, fun _ => service.clients.leadsTo_setEnabled index enabled
    fun _ _ => ⟨fun _ => rfl, fun _ => rfl⟩⟩

theorem carries_startUsing {index : Nat} (held : service.current = some index) :
    service.Carries (service.startUsing index).2 := by
  obtain ⟨token, chain, bridge, panicHook, ⟨fault, _, used⟩ | ⟨enabled, _, used⟩⟩ :=
    service.startUsing_cases index
  · rw [used]
    exact ⟨held.symm, rfl, fun _ => .refl _⟩
  · rw [used]
    have ready : service.Carries
        { service with current := some index, token, chain, bridge, panicHook } :=
      ⟨held.symm, rfl, fun _ => .refl _⟩
    obtain ⟨subscription, listeners, listening⟩ := listen_eq
      (({ service with current := some index, token, chain, bridge, panicHook } :
        Service).applyChoice index enabled)
    rw [listening]
    exact (ready.trans (carries_applyChoice _ index enabled)).trans ⟨rfl, rfl, fun _ => .refl _⟩

theorem turn_start (service : Service) (plain : operation.pretence? = none) :
    Turn operation service service.start.2 := by
  have unsaid {after : Service} (same : after.dryRunChoice = service.dryRunChoice) :
      after.dryRunChoice = operation.pretence?.or service.dryRunChoice := by
    rw [plain, same]
    rfl
  unfold start
  cases held : service.current with
  | some index => exact (carries_startUsing held).turn plain
  | none =>
      have building := service.building_buildClient
      generalize service.buildClient = outcome at building ⊢
      cases building with
      | unsupplied failed => exact .left held (unsaid rfl)
      | unidentified loaded failed => exact .left held (unsaid rfl)
      | refused loaded obtained failed => exact .left held (unsaid rfl)
      | @launched settings id loaded obtained checked =>
          obtain ⟨task, found, receptive, dryRun⟩ := service.loading.clients.receptive_launch
            ⟨settings.identity, id⟩ (service.clientConfig settings) service.courier
          -- the client is there as soon as it is launched; using it only carries on
          have built : Turn operation service
              { service.loading with
                store := service.store.obtainId.2
                clients := Clients.launch service.loading.clients ⟨settings.identity, id⟩
                  (service.clientConfig settings) service.courier
                current := some service.clients.tasks.length } :=
            .built loaded rfl (Nat.le_refl _) found receptive dryRun (unsaid rfl)
          exact built.carries (carries_startUsing rfl)

/-- A service that is started anew ends up without a client or with a new one. -/
theorem turn_restart (plain : operation.pretence? = none) (supply : service.supply = before.supply)
    (disk : service.store.disk = before.store.disk)
    (choice : service.dryRunChoice = before.dryRunChoice)
    (length : service.clients.tasks.length = before.clients.tasks.length) :
    Turn operation before service.restart.2 := by
  obtain ⟨clients, chain, leads, restarted⟩ := service.restart_eq
  have kept := Clients.length_lasting (leads.weaken fun _ => And.right)
  have started := turn_start
    { service with current := none, clients, token := none, chain } plain
  -- the old client has been let go of when the new start begins
  rw [restarted]
  refine Turn.begin ?_ ?_ ?_ ?_ ?_ started
  · exact supply
  · exact disk
  · exact choice
  · rfl
  · exact kept.trans length

theorem turn_followChoice (service : Service) (plain : operation.pretence? = none) :
    Turn operation service service.followChoice := by
  have unmoved : Turn operation service service := (Carries.refl service).turn plain
  cases kept : service.released with
  | true =>
      unfold followChoice
      rw [if_pos kept]
      exact unmoved
  | false =>
      rcases service.followChoice_cases kept with
        ⟨fault, _, followed⟩ | ⟨enabled, optedIn, clients, events, _, leads, followed⟩
      · rw [followed]
        exact (service.carries_log _).turn plain
      · have restarted : Turn operation service
            ({ service with optedIn, clients } : Service).restart.2 :=
          turn_restart plain rfl rfl rfl (Clients.length_lasting (leads.weaken fun _ => And.right))
        rcases followed with followed | followed
        · rw [followed]
          exact restarted
        · rw [followed]
          exact restarted.carries (carries_log _ events)

theorem turn_step (service : Service) (frame : StoreFrame) (plain : operation.pretence? = none) :
    Turn operation service (service.step frame).2 := by
  rcases service.step_cases frame with ⟨_, followed⟩ | ⟨_, _, _, unmoved⟩ | ⟨_, passed⟩
  · rw [followed]
    exact service.turn_followChoice plain
  · rw [unmoved]
    exact (Carries.refl service).turn plain
  · rw [passed]
    exact Carries.turn ⟨rfl, rfl, fun _ => .refl _⟩ plain

/-! ### Operations -/

theorem turn_setDryRun (service : Service) (dryRun : Bool) :
    Turn (.setDryRun dryRun) service (service.setDryRun dryRun) := by
  unfold setDryRun
  dsimp only
  cases held : service.current with
  | none => exact .left rfl rfl
  | some index =>
      refine .kept held.symm rfl ?_
      intro place task same found
      cases held.symm.trans same
      refine ⟨{ task with owner := { task.owner with dryRun } }, ?_, id, fun _ => rfl⟩
      simp only [Clients.setDryRun, Clients.modifyClient]
      rw [Engine.task_modify, if_pos rfl, found]
      rfl

theorem turn_shut (service : Service) (place : Nat) {operation : ClientOperation}
    (leads : ∀ index (clients : Clients), (place = index → service.current = some place) →
      Engine.LeadsTo (QueueEvent.Spares index (service.current = some place) False) clients
        (clients.perform place operation))
    (closes : ∀ clients : Clients, (clients.perform place operation).IsClosed place) :
    Turn (.onClient place operation) service (service.perform (.onClient place operation)) := by
  refine .of_spared rfl (service.current = some place) rfl rfl ?_ ?_
  · intro index held
    refine service.leadsTo_withClients (fun _ => trivial) fun clients => ?_
    refine (leads index clients ?_).weaken fun event spares => ?_
    · rintro rfl
      exact held
    · cases event with
      | adjust place change =>
          exact fun same client => ⟨(spares same client).1, fun _ => (spares same client).2 id⟩
      | _ => exact spares
  · intro shut index held
    cases shut.symm.trans held
    exact closes service.lendClients

theorem turn_onClient (service : Service) (place : Nat) (operation : ClientOperation) :
    Turn (.onClient place operation) service (service.perform (.onClient place operation)) := by
  have leaves (leads : ∀ index (clients : Clients), Engine.LeadsTo
      (QueueEvent.Spares index False (Operation.onClient place operation).Meddles) clients
      (clients.perform place operation)) :
      Turn (.onClient place operation) service (service.perform (.onClient place operation)) :=
    .of_spared rfl False rfl rfl
      (fun index _ => service.leadsTo_withClients (fun _ => trivial) (leads index)) False.elim
  have marks (index : Nat) (held : place = index → service.current = some place) :
      QueueEvent.Spares index (service.current = some place) False
        (.adjust place fun client => { client with closed := true }) :=
    fun same _ => ⟨fun unshut => absurd (held same) unshut, fun _ => rfl⟩
  cases operation with
  | send hit => exact leaves fun _ clients => clients.leadsTo_send place hit trivial
  | setEnabled enabled =>
      exact leaves fun _ clients => clients.leadsTo_setEnabled place enabled
        fun _ _ => ⟨fun _ => rfl, fun _ => rfl⟩
  | setDryRun dryRun =>
      exact leaves fun _ clients => clients.leadsTo_setDryRun place dryRun
        fun _ _ => ⟨fun _ => rfl, fun unmeddled => absurd trivial unmeddled⟩
  | flush => exact leaves fun _ clients => .single clients (.flush place) trivial
  | shutdown =>
      refine service.turn_shut place ?_ fun clients => clients.isClosed_shutdown place
      exact fun index clients held => clients.leadsTo_shutdown place (marks index held) held
  | shutdownAndWait =>
      refine service.turn_shut place ?_ fun clients => clients.isClosed_shutdownAndWait place
      exact fun index clients held => clients.leadsTo_shutdownAndWait place (marks index held) held
        (fun _ _ => ⟨fun _ => rfl, fun _ => rfl⟩) (fun _ _ => trivial) fun _ => trivial

theorem turn_perform (service : Service) {operation : Operation}
    (whole : ∀ step stays, operation ≠ .change step stays) :
    Turn operation service (service.perform operation) := by
  have registers {after : Service} (plain : operation.pretence? = none)
      (current : after.current = service.current)
      (choice : after.dryRunChoice = service.dryRunChoice)
      (clients : after.clients = service.clients) : Turn operation service after := by
    refine Carries.turn ⟨current, choice, fun _ => ?_⟩ plain
    rw [clients]
    exact .refl _
  have happens (plain : operation.pretence? = none) (happen : Clients → Clients)
      (leads : ∀ index clients,
        Engine.LeadsTo (QueueEvent.Spares index False False) clients (happen clients)) :
      Turn operation service (service.withClients happen) := by
    refine Carries.turn ⟨rfl, rfl, fun index => ?_⟩ plain
    exact service.leadsTo_withClients (fun _ => trivial) (leads index)
  cases operation with
  | start => exact service.turn_start rfl
  | restart => exact turn_restart rfl rfl rfl rfl rfl
  | shutdown =>
      obtain ⟨clients, same, _⟩ := service.shutdown_eq
      obtain ⟨chain, listeners, panicHook, detached⟩ := service.detach_eq
      simp only [perform, same, detached]
      exact .left rfl rfl
  | detach =>
      obtain ⟨chain, listeners, panicHook, detached⟩ := service.detach_eq
      simp only [perform, detached]
      exact .left rfl rfl
  | setOptIn enabled =>
      simp only [perform, setOptIn]
      split
      · exact registers rfl rfl rfl rfl
      · exact (service.carries_applyChoice _ enabled).turn rfl
  | setDryRun dryRun => exact service.turn_setDryRun dryRun
  | intercept =>
      obtain ⟨token, chain, same⟩ := service.intercept_eq
      simp only [perform, same]
      exact registers rfl rfl rfl rfl
  | stopIntercepting =>
      obtain ⟨chain, same⟩ := service.stopIntercepting_eq
      simp only [perform, same]
      exact registers rfl rfl rfl rfl
  | report report =>
      obtain ⟨hit, same⟩ := service.report_sends report
      simp only [perform, same]
      exact (service.carries_send hit).turn rfl
  | flush =>
      simp only [perform, flush]
      split
      · exact registers rfl rfl rfl rfl
      · rename_i index _
        exact happens rfl (Engine.flush · index |>.2) fun _ clients =>
          .single clients (.flush index) trivial
  | dispatch exception =>
      have carries : service.Carries (service.dispatch exception) :=
        dispatch_preserves service.Carries (fun later hit held => held.trans (later.carries_send hit))
          (fun _ _ held => held.trans ⟨rfl, rfl, fun _ => .refl _⟩) exception service (.refl service)
      exact carries.turn rfl
  | panic exception =>
      have carries : service.Carries (service.panic exception) :=
        panic_preserves service.Carries (fun later hit held => held.trans (later.carries_send hit))
          (fun _ _ held => held.trans ⟨rfl, rfl, fun _ => .refl _⟩) exception service (.refl service)
      exact carries.turn rfl
  | change step stays => exact absurd rfl (whole step stays)
  | resupply supply => exact registers rfl rfl rfl rfl
  | onClient place operation => exact service.turn_onClient place operation
  | forget place =>
      simp only [perform]
      split
      · exact registers rfl rfl rfl rfl
      · rename_i other
        refine .of_spared rfl False rfl rfl (fun index held => ?_) False.elim
        refine service.clients.leadsTo_release place ?_
        rintro rfl
        exact absurd held other
  | enlist name => exact registers rfl rfl rfl rfl
  | dismiss number =>
      simp only [perform]
      split
      · exact registers rfl rfl rfl rfl
      · exact registers rfl rfl rfl rfl
  | setTerminal name => exact registers rfl rfl rfl rfl
  | go index place =>
      exact happens rfl (Engine.after · (.go index place)) fun _ clients =>
        .single clients _ trivial
  | tick milliseconds =>
      exact happens rfl (Engine.after · (.tick milliseconds)) fun _ clients =>
        .single clients _ trivial
  | sleep milliseconds =>
      exact happens rfl (Engine.sleep · milliseconds) fun _ clients =>
        Engine.leadsTo_sleep (fun _ _ => trivial) (fun _ => trivial) clients milliseconds

end Service

/-! ### Whole runs -/

/-- One step of a run: an operation, or one frame of what follows from a change. -/
structure Stride where
  operation : Operation
  before : Service
  after : Service

namespace Service

def strides (service : Service) (operation : Operation) (agenda : List StoreFrame) :
    List Stride :=
  match agenda with
  | [] => []
  | frame :: rest =>
      ⟨operation, service, (service.step frame).2⟩ ::
        strides (service.step frame).2 operation ((service.step frame).1 ++ rest)
termination_by service.weight agenda
decreasing_by exact weight_descends service frame rest

def stridesOf (service : Service) : Operation → List Stride
  | .change step stays => service.strides (.change step stays) [.take none [step]]
  | operation => [⟨operation, service, service.perform operation⟩]

def history (service : Service) : List Operation → List Stride
  | [] => []
  | operation :: rest => service.stridesOf operation ++ (service.perform operation).history rest

theorem operation_strides (service : Service) (operation : Operation) (agenda : List StoreFrame) :
    ∀ stride ∈ service.strides operation agenda, stride.operation = operation := by
  fun_induction Service.strides service operation agenda with
  | case1 => exact List.forall_mem_nil _
  | case2 service frame rest ih => exact List.forall_mem_cons.mpr ⟨rfl, ih⟩

theorem operation_stridesOf (service : Service) (operation : Operation) :
    ∀ stride ∈ service.stridesOf operation, stride.operation = operation := by
  cases operation with
  | change step stays => exact service.operation_strides _ _
  | _ => exact List.forall_mem_singleton.mpr rfl

theorem operation_history (service : Service) (operations : List Operation) :
    ∀ stride ∈ service.history operations, stride.operation ∈ operations := by
  induction operations generalizing service with
  | nil => exact List.forall_mem_nil _
  | cons operation rest ih =>
      refine List.forall_mem_append.mpr ⟨?_, ?_⟩
      · intro stride member
        rw [service.operation_stridesOf operation stride member]
        exact List.mem_cons_self
      · intro stride member
        exact List.mem_cons_of_mem _ (ih _ stride member)

inductive IsTrail : Service → List Stride → Service → Prop where
  | done (service : Service) : IsTrail service [] service
  | go {operation : Operation} {service next after : Service} {rest : List Stride}
      (turn : Turn operation service next) (later : IsTrail next rest after) :
      IsTrail service (⟨operation, service, next⟩ :: rest) after

variable {service between after : Service} {trail first second : List Stride}

theorem IsTrail.append (early : IsTrail service first between)
    (late : IsTrail between second after) : IsTrail service (first ++ second) after := by
  induction early with
  | done => exact late
  | go turn later ih => exact .go turn (ih late)

theorem trail_strides (service : Service) {operation : Operation}
    (plain : operation.pretence? = none) (agenda : List StoreFrame) :
    IsTrail service (service.strides operation agenda) (service.run agenda) := by
  fun_induction Service.run service agenda with
  | case1 service =>
      rw [strides]
      exact .done service
  | case2 service frame rest ih =>
      rw [strides]
      exact .go (service.turn_step frame plain) ih

theorem trail_history (service : Service) (operations : List Operation) :
    IsTrail service (service.history operations) (service.course operations) := by
  induction operations generalizing service with
  | nil => exact .done service
  | cons operation rest ih =>
      refine IsTrail.append ?_ (ih (service.perform operation))
      have single (whole : ∀ step stays, operation ≠ .change step stays) :
          IsTrail service [⟨operation, service, service.perform operation⟩]
            (service.perform operation) :=
        .go (service.turn_perform whole) (.done _)
      cases operation with
      | change step stays => exact service.trail_strides rfl _
      | _ => exact single fun _ _ => Operation.noConfusion

theorem IsTrail.keeps {holds : Service → Prop}
    (kept : ∀ {operation : Operation} {before after : Service},
      Turn operation before after → holds before → holds after)
    (leads : IsTrail service trail after) (start : holds service) : holds after := by
  induction leads with
  | done service => exact start
  | go turn later ih => exact ih (kept turn start)

/-- What every turn preserves holds after each step of a run, of all steps up to it. -/
theorem IsTrail.preserves {Holds : List Stride → Service → Prop}
    (kept : ∀ {past : List Stride} {operation : Operation} {before after : Service},
      Turn operation before after → Holds past before →
        Holds (past ++ [⟨operation, before, after⟩]) after)
    (leads : IsTrail service trail after) {past : List Stride} (holds : Holds past service) :
    Holds (past ++ trail) after ∧ ∀ early stride late, trail = early ++ stride :: late →
      Holds (past ++ early ++ [stride]) stride.after := by
  induction leads generalizing past with
  | done service =>
      refine ⟨by simpa using holds, ?_⟩
      intro early stride late listed
      simp at listed
  | go turn later ih =>
      obtain ⟨ends, each⟩ := ih (kept turn holds)
      refine ⟨by simpa using ends, ?_⟩
      intro early next late listed
      -- the step is the first one or one of those after it
      cases early with
      | nil =>
          obtain ⟨rfl, _⟩ := List.cons.inj listed
          simpa using kept turn holds
      | cons head early =>
          rw [List.cons_append] at listed
          obtain ⟨rfl, behind⟩ := List.cons.inj listed
          simpa using each early next late behind

end Service

end Telemetry
