import Telemetry.Proofs.Service.Traffic

/-! What a start may come to. A start builds a client, if there is none, and puts it into use; it
fails before there is a client, or when the stored choice cannot be read. -/

namespace Telemetry

namespace Service

variable (service : Service)

def loading : Service :=
  { service with supply := service.supply.afterLoad }.log
    (service.supply.load service.store.disk).2

/-- What it comes to that a client is asked for. The settings are loaded first, then the
installation id is obtained, which may leave a new one in the store, and only then the configuration is
checked. -/
inductive Building : Except ServiceError Nat × Service → Prop where
  | unsupplied {fault : SettingsFault}
      (failed : (service.supply.load service.store.disk).1 = .error fault) :
      Building (.error (.settings fault), service.loading)
  | unidentified {settings : Settings} {fault : PreferenceFault}
      (loaded : (service.supply.load service.store.disk).1 = .ok settings)
      (failed : service.store.obtainId.1 = .error fault) :
      Building (.error (.preferences fault),
        { service.loading with store := service.store.obtainId.2 })
  | refused {settings : Settings} {id : String} {error : ServiceError}
      (loaded : (service.supply.load service.store.disk).1 = .ok settings)
      (obtained : service.store.obtainId.1 = .ok id)
      (failed : (service.clientConfig settings).check Url.parse settings.identity true
        service.courier.isSome = .error error) :
      Building (.error error, { service.loading with store := service.store.obtainId.2 })
  | launched {settings : Settings} {id : String}
      (loaded : (service.supply.load service.store.disk).1 = .ok settings)
      (obtained : service.store.obtainId.1 = .ok id)
      (checked : (service.clientConfig settings).check Url.parse settings.identity true
        service.courier.isSome = .ok ()) :
      Building (.ok service.clients.tasks.length,
        { service.loading with
          store := service.store.obtainId.2
          clients := Clients.launch service.loading.clients ⟨settings.identity, id⟩
            (service.clientConfig settings) service.courier })

theorem building_buildClient : service.Building service.buildClient := by
  unfold buildClient
  dsimp only
  cases loaded : (service.supply.load service.store.disk).1 with
  | error fault => exact .unsupplied loaded
  | ok settings =>
      change service.Building (service.loading.buildFor settings)
      have same : service.loading.store.obtainId = service.store.obtainId := rfl
      unfold buildFor
      dsimp only
      rw [same]
      cases obtained : service.store.obtainId.1 with
      | error fault => exact .unidentified loaded obtained
      | ok id =>
          dsimp only
          unfold Clients.build Clients.buildBy
          cases checked : (service.clientConfig settings).check Url.parse settings.identity true
              service.courier.isSome with
          | error error =>
              have again : (service.loading.clientConfig settings).check Url.parse
                  settings.identity true service.loading.courier.isSome = .error error := checked
              simp only [again]
              exact .refused loaded obtained checked
          | ok done =>
              have again : (service.loading.clientConfig settings).check Url.parse
                  settings.identity true service.loading.courier.isSome = .ok () := checked
              simp only [again]
              exact .launched loaded obtained checked

theorem leadsTo_loading : Engine.LeadsTo QueueEvent.Modest service.clients
    service.loading.clients :=
  .single service.clients (.log _) ⟨trivial, trivial⟩

theorem buildClient_cases :
    ∃ supply store clients, service.buildClient.2 = { service with supply, store, clients } ∧
      (store = service.store ∨ store = service.store.obtainId.2) ∧
      Engine.LeadsTo QueueEvent.Modest service.clients clients ∧
      ∀ index, service.buildClient.1 = .ok index → index < clients.tasks.length := by
  have loading := service.leadsTo_loading
  have building := service.building_buildClient
  generalize service.buildClient = outcome at building ⊢
  cases building with
  | unsupplied failed =>
      refine ⟨service.supply.afterLoad, service.store, _, rfl, .inl rfl, loading, ?_⟩
      intro index built
      cases built
  | unidentified loaded failed =>
      refine ⟨service.supply.afterLoad, service.store.obtainId.2, _, rfl, .inr rfl, loading, ?_⟩
      intro index built
      cases built
  | refused loaded obtained failed =>
      refine ⟨service.supply.afterLoad, service.store.obtainId.2, _, rfl, .inr rfl, loading, ?_⟩
      intro index built
      cases built
  | launched loaded obtained checked =>
      refine ⟨service.supply.afterLoad, service.store.obtainId.2, _, rfl, .inr rfl,
        loading.trans (Clients.leadsTo_launch _ _ _ _), ?_⟩
      intro index built
      cases built
      rw [Clients.length_launch]
      exact Nat.lt_succ_self _

/-- A start puts a client into use, a new one if there is none, or leaves the service without a
client. -/
theorem start_cases :
    ∃ supply store clients, (store = service.store ∨ store = service.store.obtainId.2) ∧
      Engine.LeadsTo QueueEvent.Modest service.clients clients ∧
      (service.current = none ∧ service.start.2 = { service with supply, store, clients } ∨
        ∃ index, (∀ held, service.current = some held → held = index ∧
            clients = service.clients) ∧
          (service.current = none → index < clients.tasks.length) ∧
          service.start = ({ service with supply, store, clients }).startUsing index) := by
  cases held : service.current with
  | some index =>
      refine ⟨service.supply, service.store, service.clients, .inl rfl, .refl _, .inr ⟨index, ?_⟩⟩
      have begun : service.start = service.startUsing index := by
        unfold start
        rw [held]
      refine ⟨fun other same => ⟨(Option.some.inj same).symm, rfl⟩, ?_, ?_⟩
      · intro idle
        cases idle
      · rw [← held]
        exact begun
  | none =>
      obtain ⟨supply, store, clients, built, stored, leads, inside⟩ := service.buildClient_cases
      refine ⟨supply, store, clients, stored, leads, ?_⟩
      unfold start
      rw [held]
      dsimp only
      cases outcome : service.buildClient.1 with
      | error fault =>
          rw [held] at built
          exact .inl ⟨rfl, built⟩
      | ok index =>
          refine .inr ⟨index, ?_, fun _ => inside index outcome, ?_⟩
          · intro other same
            cases same
          · rw [built, held]

/-- The client is in use and the service has its place in the chain, whether or not the stored
choice can be read. -/
theorem startUsing_cases (index : Nat) :
    ∃ token chain bridge panicHook,
      (∃ fault, service.storedChoice = .error fault ∧
        service.startUsing index = (.error (.preferences fault),
          { service with current := some index, token, chain, bridge, panicHook })) ∨
      ∃ enabled, service.storedChoice = .ok enabled ∧
        service.startUsing index = (.ok index,
          (({ service with current := some index, token, chain, bridge, panicHook }).applyChoice
            index enabled).listen) := by
  obtain ⟨token, chain, intercepted⟩ :=
    Service.intercept_eq { service with current := some index }
  obtain ⟨bridge, panicHook, bridged⟩ :=
    ({ service with current := some index } : Service).intercept.bridgePanics_eq
  refine ⟨token, chain, bridge, panicHook, ?_⟩
  unfold startUsing
  rw [bridged, intercepted]
  dsimp only
  have same : ({ service with current := some index, token, chain, bridge, panicHook } :
      Service).storedChoice = service.storedChoice := rfl
  rw [same]
  cases choice : service.storedChoice with
  | error fault => exact .inl ⟨fault, rfl, rfl⟩
  | ok enabled => exact .inr ⟨enabled, rfl, rfl⟩

theorem listen_eq : ∃ subscription listeners, service.listen =
    { service with
      subscription, store.store := { service.store.store with listeners } } := by
  unfold listen
  split
  · exact ⟨service.subscription, service.store.store.listeners, rfl⟩
  · exact ⟨_, _, rfl⟩

theorem silent_startUsing (index : Nat) :
    Engine.LeadsTo QueueEvent.Silent service.clients (service.startUsing index).2.clients := by
  obtain ⟨token, chain, bridge, panicHook, ⟨fault, _, same⟩ | ⟨enabled, _, same⟩⟩ :=
    service.startUsing_cases index
  · rw [same]
    exact .refl _
  · rw [same]
    obtain ⟨subscription, listeners, listening⟩ := listen_eq
      (({ service with current := some index, token, chain, bridge, panicHook } :
        Service).applyChoice index enabled)
    rw [listening]
    exact service.clients.leadsTo_setEnabled index enabled trivial

theorem silent_start :
    Engine.LeadsTo QueueEvent.Silent service.clients service.start.2.clients := by
  obtain ⟨supply, store, clients, _, leads, ⟨_, same⟩ | ⟨index, _, _, same⟩⟩ :=
    service.start_cases
  · rw [same]
    exact leads.weaken fun _ => QueueEvent.Modest.silent
  · rw [same]
    refine (leads.weaken fun _ => QueueEvent.Modest.silent).trans ?_
    exact silent_startUsing { service with supply, store, clients } index

theorem dropClient_eq :
    ∃ clients, service.dropClient = { service with current := none, clients } ∧
      Engine.LeadsTo (QueueEvent.Slight (service.current = some ·)) service.clients clients := by
  unfold dropClient
  split
  · rename_i none
    exact ⟨service.clients, by rw [← none], .refl _⟩
  · rename_i index held
    exact ⟨_, rfl, service.clients.leadsTo_shutdown index ⟨trivial, Client.lasts_closed held⟩
      ⟨trivial, trivial⟩⟩

theorem restart_eq :
    ∃ clients chain,
      Engine.LeadsTo (QueueEvent.Slight (service.current = some ·)) service.clients clients ∧
      service.restart =
        ({ service with current := none, clients, token := none, chain } : Service).start := by
  obtain ⟨clients, dropped, leads⟩ := service.dropClient_eq
  obtain ⟨chain, stopped⟩ := service.dropClient.stopIntercepting_eq
  refine ⟨clients, chain, leads, ?_⟩
  unfold restart
  rw [stopped, dropped]

theorem silent_restart :
    Engine.LeadsTo QueueEvent.Silent service.clients service.restart.2.clients := by
  obtain ⟨clients, chain, leads, same⟩ := service.restart_eq
  rw [same]
  refine (leads.weaken fun _ => And.left).trans ?_
  exact silent_start { service with current := none, clients, token := none, chain }

theorem setOptIn_eq (enabled : Bool) :
    ∃ optedIn clients, (service.setOptIn enabled).2 = { service with optedIn, clients } ∧
      Engine.LeadsTo (QueueEvent.Slight fun _ => False) service.clients clients := by
  unfold setOptIn
  split
  · exact ⟨service.optedIn, service.clients, rfl, .refl _⟩
  · rename_i index _
    exact ⟨enabled, _, rfl, service.clients.leadsTo_setEnabled index enabled
      ⟨trivial, fun client => client.lasts_switched enabled client.dryRun⟩⟩

/-- A change of the choice is followed by a restart if it can be read; the log aside. -/
theorem followChoice_cases (kept : service.released = false) :
    (∃ fault, service.storedChoice = .error fault ∧
        service.followChoice = service.log [.optInUnreadable]) ∨
      ∃ enabled optedIn clients events, service.storedChoice = .ok enabled ∧
        Engine.LeadsTo (QueueEvent.Slight fun _ => False) service.clients clients ∧
        (service.followChoice = ({ service with optedIn, clients } : Service).restart.2 ∨
          service.followChoice =
            (({ service with optedIn, clients } : Service).restart.2).log events) := by
  unfold followChoice
  rw [if_neg (by rw [kept]; exact Bool.false_ne_true)]
  cases choice : service.storedChoice with
  | error fault => exact .inl ⟨fault, rfl, rfl⟩
  | ok enabled =>
      obtain ⟨optedIn, clients, applied, leads⟩ := service.setOptIn_eq enabled
      dsimp only
      rw [applied]
      cases (service.setOptIn enabled).1 with
      | error fault =>
          refine .inr ⟨enabled, optedIn, clients.log [.optInNotApplied], [.notReinitialized], rfl,
            leads.trans (.single clients (.log _) ⟨trivial, trivial⟩), ?_⟩
          dsimp only
          split
          · exact .inr rfl
          · exact .inl rfl
      | ok done =>
          refine .inr ⟨enabled, optedIn, clients, [.notReinitialized], rfl, leads, ?_⟩
          dsimp only
          split
          · exact .inr rfl
          · exact .inl rfl

theorem silent_log (events : List LogEvent) :
    Engine.LeadsTo QueueEvent.Silent service.clients (service.log events).clients :=
  .single service.clients (.log events) trivial

theorem silent_followChoice :
    Engine.LeadsTo QueueEvent.Silent service.clients service.followChoice.clients := by
  cases kept : service.released with
  | true =>
      unfold followChoice
      rw [if_pos kept]
      exact .refl _
  | false =>
      rcases service.followChoice_cases kept with
        ⟨fault, _, same⟩ | ⟨enabled, optedIn, clients, events, _, leads, same | same⟩
      · rw [same]
        exact service.silent_log _
      · rw [same]
        exact (leads.weaken fun _ => And.left).trans
          (silent_restart { service with optedIn, clients })
      · rw [same]
        exact ((leads.weaken fun _ => And.left).trans
          (silent_restart { service with optedIn, clients })).trans (silent_log _ events)

theorem silent_step (frame : StoreFrame) :
    Engine.LeadsTo QueueEvent.Silent service.clients (service.step frame).2.clients := by
  unfold step
  split
  · dsimp only
    split
    · exact service.silent_followChoice
    · exact .refl _
  · exact .refl _

theorem silent_run (agenda : List StoreFrame) :
    Engine.LeadsTo QueueEvent.Silent service.clients (service.run agenda).clients := by
  fun_induction service.run agenda with
  | case1 service => exact .refl _
  | case2 service frame rest ih => exact (service.silent_step frame).trans ih

end Service

/-- Operations that bring no hit, whoever takes hits. -/
def Operation.IsQuiet : Operation → Prop
  | .report _ | .flush | .dispatch _ | .panic _ | .onClient _ _ | .go _ _ | .tick _ | .sleep _ =>
      False
  | _ => True

namespace Service

theorem silent_perform (service : Service) {operation : Operation} (quiet : operation.IsQuiet) :
    Engine.LeadsTo QueueEvent.Silent service.clients (service.perform operation).clients := by
  have modest {after : Clients} (leads : Engine.LeadsTo QueueEvent.Modest service.clients after) :
      Engine.LeadsTo QueueEvent.Silent service.clients after :=
    leads.weaken fun _ => QueueEvent.Modest.silent
  cases operation with
  | start => exact service.silent_start
  | restart => exact service.silent_restart
  | shutdown =>
      obtain ⟨clients, same, leads⟩ := service.shutdown_eq
      rw [clients_detach] at leads
      simp only [perform, same]
      exact modest leads
  | detach =>
      simp only [perform, clients_detach]
      exact .refl _
  | setOptIn enabled =>
      obtain ⟨optedIn, clients, same, leads⟩ := service.setOptIn_eq enabled
      simp only [perform, same]
      exact leads.weaken fun _ => And.left
  | setDryRun dryRun =>
      simp only [perform, setDryRun]
      split
      · exact .refl _
      · exact service.clients.leadsTo_setDryRun _ dryRun trivial
  | intercept =>
      obtain ⟨token, chain, same⟩ := service.intercept_eq
      simp only [perform, same]
      exact .refl _
  | stopIntercepting =>
      obtain ⟨chain, same⟩ := service.stopIntercepting_eq
      simp only [perform, same]
      exact .refl _
  | change step stays => exact service.silent_run _
  | forget index =>
      simp only [perform]
      split
      · exact .refl _
      · exact service.clients.leadsTo_release index trivial
  | dismiss number =>
      simp only [perform]
      split <;> exact .refl _
  | resupply supply => exact .refl _
  | enlist name => exact .refl _
  | setTerminal name => exact .refl _
  | _ => exact quiet.elim

end Service

end Telemetry
