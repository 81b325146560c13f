import Telemetry.Proofs.Queue.Retirement
import Telemetry.Proofs.Service.Gate
import Telemetry.Proofs.Service.Succession
import Telemetry.Proofs.Settings.Acceptance

/-! The end of a service. As long as nobody shuts a client behind its back, the loop of every client
does its work; so a shutdown, however its last flush ends, leaves an empty queue and a loop that
has stopped. A service that has given all its registrations up is not reached any more by anything
but a new start. -/

namespace Telemetry

theorem Stage.goesOn_ended {stage : Stage} (ended : stage.isAlive = false) (now : Nat) :
    stage.goesOn now = false := by
  cases stage with
  | stopped => rfl
  | crashed => rfl
  | _ => cases ended

namespace Clients

/-- All couriers answer, and all queues are looked after. -/
structure Tidy (clients : Clients) : Prop where
  returns : clients.outbox.Returns
  diligent : ∀ task ∈ clients.tasks, task.Diligent

variable {before after clients : Clients} {index : Nat} {shut : Nat → Prop}

theorem Tidy.leadsTo (tidy : before.Tidy)
    (leads : Engine.LeadsTo (QueueEvent.Lasting shut) before after) : after.Tidy := by
  refine Engine.LeadsTo.preserves Tidy (fun clients event lasting held => ?_) leads tidy
  have settled : Engine.LeadsTo (QueueEvent.Lasting shut) clients (Engine.after clients event) :=
    .single clients event lasting
  refine ⟨returns_leadsTo settled held.returns, ?_⟩
  apply Engine.diligent_after _ _ held.returns held.diligent
  · rintro owner courier config rfl
    exact lasting.elim
  · rintro place rfl
    exact lasting.elim

/-- Whoever waits for the end of a closed client finds its queue empty and its loop stopped. -/
theorem Tidy.await (tidy : clients.Tidy) {task : Task Client}
    (found : clients.tasks[index]? = some task) (closed : task.queue.closed = true) :
    ∃ last, (Clients.await clients index).tasks[index]? = some last ∧ last.Retired := by
  have noted (clients : Clients) :
      (if clients.hasCrashed index then clients.log [.loopLost] else clients).tasks =
        clients.tasks := by
    split <;> rfl
  unfold Clients.await
  rw [noted]
  have here : clients.isRunning index = task.loops.any (·.stage.isAlive) := by
    unfold isRunning
    rw [found, Option.any_some]
  split
  · have settling : Engine.LeadsTo (QueueEvent.Lasting fun _ => False) clients
        (Engine.settle clients) := Engine.leadsTo_settle (fun _ _ => trivial) clients
    obtain ⟨last, there, shut⟩ := Engine.closed_leadsTo settling found closed
    have member := List.mem_of_getElem? there
    exact ⟨last, there, ((tidy.leadsTo settling).diligent last member).retired shut
      (Engine.still_of_rests (Engine.step_settle clients) last member)⟩
  · rename_i ended
    rw [here, Bool.not_eq_true, List.any_eq_false] at ended
    refine ⟨task, found, ?_⟩
    apply (tidy.diligent task (List.mem_of_getElem? found)).retired closed
    intro loop member
    exact Stage.goesOn_ended (Bool.eq_false_iff.mpr (ended loop member)) clients.now

theorem task_shutdown {task : Task Client} (found : clients.tasks[index]? = some task)
    (opened : task.owner.closed = false) :
    ∃ next, (clients.shutdown index).tasks[index]? = some next ∧
      next.owner = { task.owner with closed := true } ∧ next.queue.closed = true := by
  have marked : (clients.modifyClient index fun client =>
      { client with closed := true }).tasks[index]? =
        some { task with owner := { task.owner with closed := true } } := by
    unfold modifyClient
    rw [Engine.task_modify, if_pos rfl, found]
    rfl
  unfold shutdown client?
  simp only [found, Option.map_some, opened, Bool.false_eq_true, if_false]
  exact ⟨_, Engine.task_close marked, Task.owner_grant _ _, (Task.queue_withQueue _ _ _).1⟩

theorem Tidy.shutdownAndWait (tidy : clients.Tidy) {client : Client}
    (found : clients.client? index = some client) (opened : client.closed = false)
    (unawaited : client.awaited = false) :
    ∃ last, (Clients.shutdownAndWait clients index).tasks[index]? = some last ∧
      last.owner.closed = true ∧ last.Retired := by
  obtain ⟨task, present, rfl⟩ := Option.map_eq_some_iff.mp found
  obtain ⟨next, there, owner, shut⟩ := task_shutdown present opened
  have shutting : Engine.LeadsTo (QueueEvent.Lasting fun _ => True) clients
      (clients.shutdown index) :=
    clients.leadsTo_shutdown index (Client.lasts_closed trivial) trivial
  have marking : Engine.LeadsTo (QueueEvent.Lasting fun _ => True) (clients.shutdown index)
      ((clients.shutdown index).modifyClient index fun client => { client with awaited := true }) :=
    .single (clients.shutdown index)
      (.adjust index fun (client : Client) => { client with awaited := true })
      (Client.lasts_awaited trivial)
  obtain ⟨marked, here, closed⟩ := Engine.closed_leadsTo marking there shut
  obtain ⟨last, reached, retired⟩ := ((tidy.leadsTo shutting).leadsTo marking).await here closed
  have waited : clients.shutdownAndWait index =
      Clients.await ((clients.shutdown index).modifyClient index fun client =>
        { client with awaited := true }) index := by
    have known : (clients.shutdown index).client? index =
        some { task.owner with closed := true } :=
      Option.map_eq_some_iff.mpr ⟨next, there, owner⟩
    unfold Clients.shutdownAndWait
    simp only [known, unawaited, Bool.false_eq_true, if_false]
  have ended := clients.isClosed_shutdownAndWait index
  rw [waited] at ended ⊢
  exact ⟨last, reached, ended last.owner (Option.map_eq_some_iff.mpr ⟨last, reached, rfl⟩), retired⟩

end Clients

namespace Service

variable {fits : StoreStep → Prop} {operation : Operation} {apart : Nat → Prop}
  {service after : Service}

/-- The queues of all clients are looked after, and nobody has shut the current client. -/
structure Attends (service : Service) : Prop where
  diligent : ∀ task ∈ service.clients.tasks, task.Diligent
  current : ∀ index, service.current = some index →
    ∃ client, Clients.client? service.clients index = some client ∧ client.closed = false ∧
      client.awaited = false

theorem Attends.leadsTo (attends : service.Attends) (returns : service.clients.outbox.Returns)
    {shut : Nat → Prop} (unshut : ∀ index, ¬shut index) {clients : Clients}
    (leads : Engine.LeadsTo (QueueEvent.Lasting shut) service.clients clients) :
    ({ service with clients } : Service).Attends := by
  have tidy : Clients.Tidy service.clients := ⟨returns, attends.diligent⟩
  refine ⟨(tidy.leadsTo leads).diligent, fun index held => ?_⟩
  obtain ⟨former, there, opened, unawaited⟩ := attends.current index held
  obtain ⟨client, found, lasts⟩ := Clients.lasts_client leads there
  obtain ⟨closed, awaited⟩ := lasts.kept (unshut index)
  exact ⟨client, found, closed.trans opened, awaited.trans unawaited⟩

theorem Attends.move (attends : service.Attends) (returns : service.clients.outbox.Returns)
    (unshut : ∀ index, ¬operation.Shuts index) (move : Move fits operation service after) :
    after.Attends := by
  cases move with
  | clients leads => exact attends.leadsTo returns unshut leads
  | part held leads closes =>
      have tidy : Clients.Tidy service.clients := ⟨returns, attends.diligent⟩
      refine ⟨(tidy.leadsTo leads).diligent, ?_⟩
      intro index none
      cases none
  | @build settings id idle obtained checked =>
      obtain ⟨number, turn, launched⟩ := Clients.tasks_launch service.clients
        ⟨settings.identity, id⟩ (service.clientConfig settings) service.courier
      constructor
      · intro task member
        rw [launched] at member
        rcases List.mem_append.mp member with old | new
        · exact attends.diligent task old
        · obtain ⟨batches, _⟩ :=
            QueueConfig.validate_iff.mp (ClientConfig.check_iff.mp checked).queue
          rw [List.mem_singleton.mp new]
          exact Task.diligent_fresh (Nat.one_le_iff_ne_zero.mpr batches) _ number turn
      · intro index held
        cases held
        rw [Clients.client_launch, if_pos rfl]
        exact ⟨_, rfl, rfl, rfl⟩
  | obtain => exact ⟨attends.diligent, attends.current⟩
  | store suits => exact ⟨attends.diligent, attends.current⟩
  | aside clients current courier policy store =>
      refine ⟨clients ▸ attends.diligent, ?_⟩
      rw [clients, current]
      exact attends.current

theorem Attends.perform (attends : service.Attends) (wired : service.Wired)
    (sole : service.Sole apart) (unshut : ∀ index, ¬operation.Shuts index) :
    (service.perform operation).Attends := by
  by_cases whole : operation = .detach
  · subst whole
    obtain ⟨chain, listeners, panicHook, detached⟩ := service.detach_eq
    simp only [Service.perform, detached]
    refine ⟨attends.diligent, ?_⟩
    intro index none
    cases none
  · have both : (service.perform operation).Sole apart ∧ (service.perform operation).Attends :=
      (wired.moves operation).preserves (fun reached => reached.Sole apart ∧ reached.Attends)
        (fun move held => ⟨held.1.move whole move, held.2.move held.1.returns unshut move⟩)
        ⟨sole, attends⟩
    exact both.2

theorem Attends.course (attends : service.Attends) (wired : service.Wired)
    (sole : service.Sole fun _ => False) {operations : List Operation}
    (unshut : ∀ operation ∈ operations, ∀ index, ¬operation.Shuts index) :
    (service.course operations).Attends := by
  induction operations using List.reverseRecOn with
  | nil => exact attends
  | append_singleton past next ih =>
      obtain ⟨earlier, last⟩ := List.forall_mem_append.mp unshut
      rw [course_snoc]
      exact (ih earlier).perform (wired.course_wired past) (Sole.course wired sole past)
        (List.forall_mem_singleton.mp last)

theorem attends_build {parts : ServiceParts} {environment : Environment} {disk : Disk}
    {directory : Place} (built : parts.build environment disk directory = .ok service) :
    service.Attends := by
  obtain ⟨supply, store, _, rfl⟩ := ServiceParts.build_eq built
  refine ⟨List.forall_mem_nil _, ?_⟩
  intro index held
  cases held

/-- While couriers answer, the last flush has no say in what a shutdown does. -/
theorem shutdown_answers (returns : service.clients.outbox.Returns) :
    (∀ message, service.shutdown.1 ≠ .panicked message) ∧
      ∀ index, service.current = some index → service.shutdown.2 =
        { service.detach with
          clients := Clients.shutdownAndWait (Engine.flush service.clients index).2 index } := by
  unfold shutdown
  cases held : service.current with
  | none =>
      refine ⟨fun _ => Answer.noConfusion, ?_⟩
      intro index same
      cases same
  | some index =>
      have quiet := Engine.flush_answers returns index
      dsimp only
      rw [clients_detach]
      split
      · rename_i message panicked
        exact absurd panicked (quiet message)
      · refine ⟨quiet, ?_⟩
        intro other same
        cases same
        rfl

theorem Attends.shutdown (attends : service.Attends) (returns : service.clients.outbox.Returns)
    {index : Nat} (held : service.current = some index) :
    ∃ task, service.shutdown.2.clients.tasks[index]? = some task ∧ task.owner.closed = true ∧
      task.Retired := by
  have flushing : Engine.LeadsTo (QueueEvent.Lasting fun _ => False) service.clients
      (Engine.flush service.clients index).2 := .single service.clients (.flush index) trivial
  have flushed := attends.leadsTo returns (fun _ => id) flushing
  obtain ⟨client, found, opened, unawaited⟩ := flushed.current index held
  have tidy : Clients.Tidy (Engine.flush service.clients index).2 :=
    ⟨Clients.returns_leadsTo flushing returns, flushed.diligent⟩
  rw [(shutdown_answers returns).2 index held]
  exact tidy.shutdownAndWait found opened unawaited

/-- The service is neither in the chain nor among the listeners, and panics are not bridged. -/
structure Unregistered (service : Service) : Prop where
  token : service.token = none
  unlisted : .service ∉ service.chain.interceptors.items
  subscription : service.subscription = none
  unlistened : .service ∉ service.store.store.listeners.items
  bridge : service.bridge = none
  unbridged : service.panicHook = .initial

theorem unregistered_shutdown (wired : service.Wired) (enlisted : service.Enlisted) :
    service.shutdown.2.Unregistered := by
  have outside {α : Type} {registry : Registry α} {own : α} (none : registry.Enrolled own none) :
      own ∉ registry.items := by
    intro member
    obtain ⟨⟨number, item⟩, there, same⟩ := List.mem_map.mp member
    cases same
    cases (none number).mp there
  obtain ⟨clients, result, _⟩ := service.shutdown_eq
  obtain ⟨chain, listeners, panicHook, detached⟩ := service.detach_eq
  have kept := enlisted.detach.enlisted
  have guarded := wired.detach.1.guarded
  rw [result]
  rw [detached] at kept guarded ⊢
  refine ⟨rfl, outside kept.chain, rfl, outside guarded.own, rfl, ?_⟩
  rcases kept.bridge with ⟨_, initial⟩ | ⟨_, bridged, _⟩
  · exact initial
  · cases bridged

end Service

def Operation.Starts : Operation → Prop
  | .start | .restart => True
  | _ => False

namespace Service

variable {service : Service} {operation : Operation} {apart : Nat → Prop}

/-- The service has no client and hears of nothing. -/
structure Dormant (service : Service) : Prop where
  wired : service.Wired
  current : service.current = none
  subscription : service.subscription = none
  unheard : service.clients.witness = none

theorem Dormant.changes (dormant : service.Dormant) {step : StoreStep}
    (stays : step.staysOpen = true) :
    ∃ store, service.changePreferences step = { service with store } := by
  have guarded := dormant.wired.guarded
  rw [dormant.subscription] at guarded
  refine ⟨_, service.run_aside (StoreSession.Guarded none)
    (fun frame => StoreSession.StaysOpen frame ∧ ∀ key, frame ≠ .tell .service key)
    (fun meek => meek.2 optInKey rfl) ?_ ?_ guarded⟩
  · intro session frame meek held
    obtain ⟨kept, stay⟩ := held.step meek.1
    refine ⟨kept, fun next member => ⟨stay next member, fun key same => ?_⟩⟩
    -- Nobody tells a service that does not listen.
    rw [same] at member
    rcases session.told_step meek.1 with ⟨nobody, _⟩ | ⟨changed, told, _⟩
    · exact nobody .service key member
    · obtain ⟨⟨number, listener⟩, there, own⟩ :=
        List.mem_map.mp ((told .service key).mp member).1
      cases own
      cases (held.own number).mp there
  · intro frame member
    refine ⟨StoreSession.staysOpen_take stays frame member, fun key same => ?_⟩
    rw [same] at member
    cases List.mem_singleton.mp member

theorem Dormant.perform (dormant : service.Dormant) (asleep : ¬operation.Starts) :
    (service.perform operation).Dormant := by
  suffices still : (service.perform operation).current = none ∧
      (service.perform operation).subscription = none from
    ⟨dormant.wired.persists operation, still.1, still.2,
      service.unheard_perform dormant.unheard operation⟩
  have plainly (plain : operation.IsPlain) : (service.perform operation).current = none ∧
      (service.perform operation).subscription = none := by
    have routine := service.routine_perform plain
    rw [routine.current, routine.subscription]
    exact ⟨dormant.current, dormant.subscription⟩
  obtain ⟨chain, listeners, panicHook, detached⟩ := service.detach_eq
  cases operation with
  | start => exact absurd trivial asleep
  | restart => exact absurd trivial asleep
  | shutdown =>
      obtain ⟨clients, result, _⟩ := service.shutdown_eq
      simp only [Service.perform, result, detached, and_self]
  | detach => simp only [Service.perform, detached, and_self]
  | setOptIn enabled =>
      have refused : service.setOptIn enabled = (.error .notInitialized, service) := by
        unfold Service.setOptIn
        rw [dormant.current]
      simp only [Service.perform, refused]
      exact ⟨dormant.current, dormant.subscription⟩
  | change step stays =>
      obtain ⟨store, result⟩ := dormant.changes stays
      simp only [Service.perform, result]
      exact ⟨dormant.current, dormant.subscription⟩
  | onClient index operation => exact ⟨dormant.current, dormant.subscription⟩
  | _ => exact plainly trivial

theorem Dormant.sole (dormant : service.Dormant) (sole : service.Sole apart)
    (operation : Operation) : (service.perform operation).Sole apart := by
  by_cases whole : operation = .detach
  · subst whole
    obtain ⟨chain, listeners, panicHook, detached⟩ := service.detach_eq
    simp only [Service.perform, detached]
    refine ⟨sole.returns, sole.supplied, fun index _ => sole.closed index ?_⟩
    rw [dormant.current]
    exact (Option.some_ne_none index).symm
  · exact sole.perform dormant.wired whole

/-- Without a client no hit comes in but by a client that somebody has kept, and closed clients take
none. -/
theorem Dormant.arrivals (dormant : service.Dormant)
    (closed : ∀ index hit, operation = .onClient index (.send hit) →
      Clients.IsClosed service.clients index) :
    (service.perform operation).clients.arrivals = service.clients.arrivals := by
  by_cases direct : ∃ index hit, operation = .onClient index (.send hit)
  · obtain ⟨index, hit, rfl⟩ := direct
    have lent : Clients.IsClosed service.lendClients index := closed index hit rfl
    simp only [Service.perform, withClients, Clients.perform, Clients.send_closed lent]
    rfl
  · apply arrivals_perform dormant.unheard
    · intro index willing
      cases dormant.current.symm.trans willing.1
    · intro index hit same
      exact direct ⟨index, hit, same⟩

theorem Wired.dormant_shutdown (wired : service.Wired)
    (unheard : service.clients.witness = none) : (service.perform .shutdown).Dormant := by
  obtain ⟨clients, result, _⟩ := service.shutdown_eq
  obtain ⟨chain, listeners, panicHook, detached⟩ := service.detach_eq
  refine ⟨wired.persists .shutdown, ?_, ?_, service.unheard_perform unheard .shutdown⟩
  · simp only [Service.perform, result, detached]
  · simp only [Service.perform, result, detached]

/-- A shutdown comes back with an answer, and however its last flush ended, the service has no
client and no registration left, and the client that it had is closed, with an empty queue and a
stopped loop. Whatever follows short of a new start, no client appears, every report is refused,
and no queue takes a hit; only a client that was let go of in the middle of an earlier shutdown may
still be open to those who have kept it. -/
theorem shutdown_detaches {parts : ServiceParts} {environment : Environment} {disk : Disk}
    {directory : Place} (built : parts.build environment disk directory = .ok service)
    (unlistened : ∀ store, parts.store = some store → .service ∉ store.listeners.items)
    (unlisted : ∀ chain, parts.chain = some chain → .service ∉ chain.interceptors.items)
    (answers : parts.Answers) {past : List Operation}
    (unshut : ∀ operation ∈ past, ∀ index, ¬operation.Shuts index) :
    let reached := service.course past
    let ended := reached.perform .shutdown
    (∀ message, reached.shutdown.1 ≠ .panicked message) ∧ ended.current = none ∧
      (∀ index, reached.current = some index →
        ∃ task, ended.clients.tasks[index]? = some task ∧ task.owner.closed = true ∧
          task.Retired) ∧
      ended.Unregistered ∧
      ∀ later : List Operation, (∀ operation ∈ later, ¬operation.Starts) →
        (∀ index hit, .onClient index (.send hit) ∈ later → ¬service.LetGo past index) →
          (ended.course later).current = none ∧
            (∀ report, (ended.course later).report report =
              (.error .notInitialized, ended.course later)) ∧
            (ended.course later).clients.arrivals = ended.clients.arrivals := by
  intro reached ended
  obtain ⟨begun, _⟩ := wired_build built unlistened
  have initial := sole_build built answers
  have wired : reached.Wired := begun.course_wired past
  have sole : reached.Sole (service.LetGo past) := Sole.course begun initial past
  have attends : reached.Attends := (attends_build built).course begun initial unshut
  have enlisted : reached.Enlisted := ((enlisted_build built unlisted).1.course past).1
  have unheard : reached.clients.witness = none := by
    refine course_preserves (·.clients.witness = none)
      (fun before operation _ held => before.unheard_perform held operation) ?_
    obtain ⟨supply, store, _, rfl⟩ := ServiceParts.build_eq built
    rfl
  have dormant : ended.Dormant := wired.dormant_shutdown unheard
  have alone : ended.Sole (service.LetGo past) := sole.perform wired Operation.noConfusion
  refine ⟨(shutdown_answers sole.returns).1, dormant.current,
    fun index held => attends.shutdown sole.returns held, unregistered_shutdown wired enlisted, ?_⟩
  intro later asleep unkept
  have still : (ended.course later).Dormant ∧ (ended.course later).Sole (service.LetGo past) ∧
      (ended.course later).clients.arrivals = ended.clients.arrivals := by
    refine course_preserves
      (fun reached => reached.Dormant ∧ reached.Sole (service.LetGo past) ∧
        reached.clients.arrivals = ended.clients.arrivals)
      (fun before operation member held => ?_) ⟨dormant, alone, rfl⟩
    obtain ⟨idle, only, same⟩ := held
    refine ⟨idle.perform (asleep operation member), idle.sole only operation, ?_⟩
    rw [← same]
    apply idle.arrivals
    rintro index hit rfl
    apply only.closed index _ (unkept index hit member)
    rw [idle.current]
    exact (Option.some_ne_none index).symm
  exact ⟨still.1.current, fun report => refuses_idle still.1.current report, still.2.2⟩

/-- A hit waits for the last flush, which will fail. -/
def lastWords : List Operation := [.start, .enlist "crash log", .report (.screen "Home")]

/-- All that might still bring a hit by way of a registration or of the client that was shut. -/
def echoes : List Operation :=
  [.change (.put optInKey none) rfl, .dispatch { message := "lost" }, .panic { message := "late" },
    .setOptIn true, .setDryRun false, .onClient 0 (.setEnabled true),
    .onClient 0 (.send (.ofScreen "Late")), .intercept, .dispatch { message := "again" }]

theorem shutdown_detaches_failedFlush :
    let values : Values := [(optInKey, .boolean true)]
    let parts := { ServiceParts.atHand values [.failed .closed] with chain := none }
    let service := { Service.atHand values [.failed .closed] with ownsChain := true }
    let reached := service.course lastWords
    let ended := reached.perform .shutdown
    parts.build {} {} [] = .ok service ∧
      (∀ store, parts.store = some store → .service ∉ store.listeners.items) ∧
      (∀ chain, parts.chain = some chain → .service ∉ chain.interceptors.items) ∧
      parts.Answers ∧ (∀ operation ∈ lastWords, ∀ index, ¬operation.Shuts index) ∧
      reached.current = some 0 ∧ reached.bridge.isSome = true ∧
      reached.shutdown.1 = .failed .closed ∧
      (∃ task, ended.clients.tasks[0]? = some task ∧ task.owner.closed = true ∧ task.Retired) ∧
      ended.Unregistered ∧ (ended.course echoes).current = none ∧
      (ended.course echoes).clients.arrivals.length = 1 := by
  intro values parts service reached ended
  have built : parts.build {} {} [] = .ok service := rfl
  have unlistened := ServiceParts.unlistened_atHand values [.failed .closed]
  have unlisted (chain : HookChain ChainMember) (given : parts.chain = some chain) :
      .service ∉ chain.interceptors.items := by
    cases given
  have answers : parts.Answers := by
    apply ServiceParts.answers_atHand values
    intro answer member message
    rw [List.mem_singleton.mp member]
    exact Answer.noConfusion
  have unshut : ∀ operation ∈ lastWords, ∀ index, ¬operation.Shuts index := by
    simp [lastWords, Operation.Shuts]
  have current : reached.current = some 0 := by decide +kernel
  have bridged : reached.bridge.isSome = true := by decide +kernel
  have failed : reached.shutdown.1 = .failed .closed := by decide +kernel
  have came : ended.clients.arrivals.length = 1 := by decide +kernel
  have whole (index : Nat) : ¬service.LetGo lastWords index := by
    intro gone
    have detached := gone.detaches
    simp [lastWords] at detached
  obtain ⟨_, _, ends, unregistered, afterwards⟩ :=
    shutdown_detaches built unlistened unlisted answers unshut
  obtain ⟨idle, _, silent⟩ := afterwards echoes
    (by simp [echoes, Operation.Starts]) fun index _ _ => whole index
  refine ⟨built, unlistened, unlisted, answers, unshut, current, bridged, failed,
    ends 0 current, unregistered, idle, ?_⟩
  rw [silent]
  exact came

end Service

end Telemetry
