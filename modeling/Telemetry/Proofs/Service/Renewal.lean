import Telemetry.Proofs.Preferences.Reading
import Telemetry.Proofs.Service.Enrollment
import Telemetry.Proofs.Service.Moves
import Telemetry.Proofs.Settings.Acceptance

/-! What a write of the choice comes to. A write is told to all who listen, one after the other. The
service is told once, and whatever became of earlier attempts, it puts a new client in the place of
the one that it has; listeners that only look change nothing about that, before or after it. -/

namespace Telemetry

def SettingsSupply.ReadsSources : SettingsSupply → Prop
  | .layered _ _ => True
  | .varying [] others => others.ReadsSources
  | _ => False

theorem SettingsSupply.load_sources {supply : SettingsSupply} (reads : supply.ReadsSources) :
    ∃ list paths, ∀ disk, supply.load disk = SourceList.load list disk paths := by
  induction supply with
  | layered list paths => exact ⟨list, paths, fun _ => rfl⟩
  | varying answers others ih =>
      cases answers with
      | nil => exact ih reads
      | cons answer rest => exact reads.elim
  | _ => exact reads.elim

namespace StoreSession

theorem Guarded.split {session : StoreSession} {number : Nat}
    (guarded : session.Guarded (some number)) :
    ∃ back, session.store.listeners.items =
        session.store.listeners.items.takeWhile (· ≠ .service) ++ .service :: back ∧
      .service ∉ back := by
  have once := guarded.count
  have member : .service ∈ session.store.listeners.items := by
    rw [← List.count_pos_iff, once]
    exact Nat.one_pos
  obtain ⟨front, back, split, before⟩ := List.eq_append_cons_of_mem member
  have ahead : session.store.listeners.items.takeWhile (· ≠ .service) = front := by
    rw [split, List.takeWhile_append_of_pos]
    · simp
    · intro listener there
      have other : listener ≠ .service := by
        rintro rfl
        exact before there
      simpa using other
  refine ⟨back, ahead.symm ▸ split, ?_⟩
  rw [split, List.count_append, List.count_cons_self] at once
  exact List.count_eq_zero.mp (by omega)

end StoreSession

namespace Service

variable {service after : Service} {enabled : Bool}

/-- The settings and the installation id are to be had. Settings that come from elsewhere than from
sources may still be of no use for a client. -/
structure Loads (service : Service) : Prop where
  settings : ∃ settings, (service.supply.load service.store.disk).1 = .ok settings ∧
    (service.supply.ReadsSources ∨ (service.clientConfig settings).check Url.parse
      settings.identity true service.courier.isSome = .ok ())
  identified : ∃ id, service.store.obtainId.1 = .ok id

theorem Loads.checked (loads : service.Loads) {settings : Settings}
    (loaded : (service.supply.load service.store.disk).1 = .ok settings) :
    (service.clientConfig settings).check Url.parse settings.identity true
      service.courier.isSome = .ok () := by
  obtain ⟨found, known, reads | checked⟩ := loads.settings
  · obtain ⟨list, paths, same⟩ := SettingsSupply.load_sources reads
    rw [same] at loaded
    obtain ⟨accepted, ends⟩ := SourceList.loadBy_ok loaded
    exact Settings.check_clientConfig accepted ends service.policy _ _
  · cases known.symm.trans loaded
    exact checked

/-! ### One client more -/

/-- There is one client more than before. It is open, switched as the user has chosen, and in use,
and the service has its place in the chain. -/
structure Renewed (count : Nat) (enabled : Bool) (service : Service) : Prop where
  length : service.clients.tasks.length = count + 1
  current : service.current = some count
  opened : ∃ task, service.clients.tasks[count]? = some task ∧ task.owner.closed = false ∧
    task.queue.closed = false ∧ task.owner.enabled = enabled
  token : service.token ≠ none

theorem startUsing_renews (service : Service) {count : Nat} {task : Task Client}
    (last : service.clients.tasks.length = count + 1)
    (found : service.clients.tasks[count]? = some task) (opened : task.owner.closed = false)
    (unclosed : task.queue.closed = false) (read : service.storedChoice = .ok enabled) :
    (service.startUsing count).2.Renewed count enabled ∧
      (service.startUsing count).2.store.deadlocked = service.store.deadlocked := by
  obtain ⟨token, chain, bridge, panicHook, ⟨fault, unread, _⟩ | ⟨choice, stored, used⟩⟩ :=
    service.startUsing_cases count
  · cases read.symm.trans unread
  · cases read.symm.trans stored
    have ok : (service.startUsing count).1 = .ok count := by rw [used]
    have registered := startUsing_registers ok
    obtain ⟨subscription, listeners, listening⟩ := listen_eq
      (({ service with current := some count, token, chain, bridge, panicHook } :
        Service).applyChoice count enabled)
    have switched : Engine.LeadsTo (QueueEvent.Lasting fun _ => False) service.clients
        (service.clients.setEnabled count enabled) :=
      service.clients.leadsTo_setEnabled count enabled
        fun client => client.lasts_switched enabled client.dryRun
    rw [used, listening] at registered ⊢
    refine ⟨⟨(Clients.length_lasting switched).trans last, rfl, ?_, registered.1⟩, rfl⟩
    refine ⟨{ task with owner := { task.owner with enabled } }, ?_, opened, unclosed, rfl⟩
    change (service.clients.setEnabled count enabled).tasks[count]? = _
    unfold Clients.setEnabled Clients.modifyClient
    rw [Engine.task_modify, if_pos rfl, found]
    rfl

theorem start_renews (service : Service) (idle : service.current = none) (loads : service.Loads)
    (obeys : service.store.Obeys StoreStep.Looks)
    (read : service.storedChoice = .ok enabled) :
    service.start.2.Renewed service.clients.tasks.length enabled ∧
      service.start.2.store.deadlocked = service.store.deadlocked := by
  obtain ⟨choice, deadlocked, _⟩ := obeys.quiet_obtainId
  have building := service.building_buildClient
  unfold start
  rw [idle]
  dsimp only
  generalize service.buildClient = outcome at building ⊢
  cases building with
  | unsupplied failed =>
      obtain ⟨settings, loaded, _⟩ := loads.settings
      cases loaded.symm.trans failed
  | unidentified loaded failed =>
      obtain ⟨id, obtained⟩ := loads.identified
      cases obtained.symm.trans failed
  | refused loaded obtained failed => cases (loads.checked loaded).symm.trans failed
  | @launched settings id loaded obtained checked =>
      obtain ⟨number, turn, launched⟩ := Clients.tasks_launch service.loading.clients
        ⟨settings.identity, id⟩ (service.clientConfig settings) service.courier
      rw [← deadlocked]
      apply startUsing_renews
      · exact Clients.length_launch _ _ _ _
      · rw [launched]
        exact List.getElem?_concat_length
      · rfl
      · rfl
      · exact (storedChoice_congr choice).trans read

theorem restart_renews (service : Service) (loads : service.Loads)
    (obeys : service.store.Obeys StoreStep.Looks)
    (read : service.storedChoice = .ok enabled) :
    service.restart.2.Renewed service.clients.tasks.length enabled ∧
      service.restart.2.store.deadlocked = service.store.deadlocked := by
  obtain ⟨clients, chain, leads, result⟩ := service.restart_eq
  rw [result, ← Clients.length_lasting (leads.weaken fun _ => And.right)]
  exact start_renews { service with current := none, clients, token := none, chain } rfl
    ⟨loads.settings, loads.identified⟩ obeys read

/-- It makes no difference whether there was a client to apply the choice to. -/
theorem followChoice_renews (service : Service) (kept : service.released = false)
    (loads : service.Loads) (obeys : service.store.Obeys StoreStep.Looks)
    (read : service.storedChoice = .ok enabled) :
    service.followChoice.Renewed service.clients.tasks.length enabled ∧
      service.followChoice.store.deadlocked = service.store.deadlocked := by
  rcases service.followChoice_cases kept with
    ⟨fault, unread, _⟩ | ⟨choice, optedIn, clients, events, _, leads, result⟩
  · cases read.symm.trans unread
  · have length := Clients.length_lasting (leads.weaken fun _ => And.right)
    have restarted := restart_renews { service with optedIn, clients }
      ⟨loads.settings, loads.identified⟩ obeys read
    rw [← length]
    rcases result with result | result
    · rw [result]
      exact restarted
    · rw [result]
      obtain ⟨renewed, deadlocked⟩ := restarted
      exact ⟨⟨renewed.length, renewed.current, renewed.opened, renewed.token⟩, deadlocked⟩

/-! ### One client less -/

/-- The client with the index is there and closed. -/
def Ended (index : Nat) (service : Service) : Prop :=
  ∃ client, Clients.client? service.clients index = some client ∧ client.closed = true

theorem Ended.leadsTo {index : Nat} {shut : Nat → Prop} {clients : Clients}
    (ended : service.Ended index)
    (leads : Engine.LeadsTo (QueueEvent.Lasting shut) service.clients clients) :
    ({ service with clients } : Service).Ended index := by
  obtain ⟨former, found, closed⟩ := ended
  obtain ⟨client, there, lasts⟩ := Clients.lasts_client leads found
  exact ⟨client, there, lasts.closed closed⟩

theorem Ended.move {fits : StoreStep → Prop} {operation : Operation} {index : Nat}
    (ended : service.Ended index) (move : Move fits operation service after) :
    after.Ended index := by
  cases move with
  | clients leads => exact ended.leadsTo leads
  | part held leads closes => exact ended.leadsTo leads
  | @build settings id idle obtained checked =>
      obtain ⟨client, found, closed⟩ := ended
      obtain ⟨task, present, _⟩ := Option.map_eq_some_iff.mp found
      have former : index ≠ service.clients.tasks.length :=
        Nat.ne_of_lt (List.getElem?_eq_some_iff.mp present).1
      refine ⟨client, ?_, closed⟩
      rw [Clients.client_launch, if_neg former]
      exact found
  | obtain => exact ended
  | store suits => exact ended
  | aside clients current courier policy store =>
      unfold Ended
      rw [clients]
      exact ended

theorem restart_ends (service : Service) {index : Nat} (held : service.current = some index)
    (inside : index < service.clients.tasks.length) : service.restart.2.Ended index := by
  have dropped : service.dropClient.clients = service.clients.shutdown index := by
    unfold dropClient
    rw [held]
  have shutting : Engine.LeadsTo (QueueEvent.Lasting fun _ => True) service.clients
      (service.clients.shutdown index) :=
    service.clients.leadsTo_shutdown index (Client.lasts_closed trivial) trivial
  have present : Clients.client? service.clients index =
      some (service.clients.tasks[index]).owner :=
    Option.map_eq_some_iff.mpr ⟨_, List.getElem?_eq_getElem inside, rfl⟩
  obtain ⟨client, there, _⟩ := Clients.lasts_client shutting present
  have ended : service.dropClient.stopIntercepting.Ended index := by
    obtain ⟨chain, stopped⟩ := service.dropClient.stopIntercepting_eq
    unfold Ended
    rw [stopped, dropped]
    exact ⟨client, there, service.clients.isClosed_shutdown index client there⟩
  -- It is closed before the next client is asked for, so it does not matter what becomes of that.
  have moves : Moves (fun _ => True) .restart service.dropClient.stopIntercepting
      service.restart.2 := moves_start _
  exact moves.preserves (Ended index) (fun move held => held.move move) ended

theorem followChoice_ends (service : Service) (kept : service.released = false)
    (read : service.storedChoice = .ok enabled) {index : Nat}
    (held : service.current = some index) (inside : index < service.clients.tasks.length) :
    service.followChoice.Ended index := by
  rcases service.followChoice_cases kept with
    ⟨fault, unread, _⟩ | ⟨choice, optedIn, clients, events, _, leads, result⟩
  · cases read.symm.trans unread
  · have restarted := restart_ends { service with optedIn, clients } held
      (Clients.inside_leadsTo leads inside)
    rcases result with result | result
    · rw [result]
      exact restarted
    · rw [result]
      exact restarted

/-! ### Agendas -/

theorem run_quiet (service : Service) (obeys : service.store.Obeys StoreStep.Looks)
    {agenda : List StoreFrame} (quiet : ∀ frame ∈ agenda, StoreSession.Quiet frame) :
    service.run agenda = { service with store := service.store.run agenda } :=
  service.run_aside (·.Obeys StoreStep.Looks) StoreSession.Quiet (fun told => told.2 rfl)
    (fun meek looks => looks.quiet_step meek) quiet obeys

/-- Of all who are told of the choice, only the service does something about it. -/
theorem Wired.run_tellings (wired : service.Wired) (listens : service.subscription ≠ none)
    (obeys : service.store.Obeys StoreStep.Looks) {rest : List StoreFrame}
    (quiet : ∀ frame ∈ rest, StoreSession.Quiet frame) :
    ∃ store,
      ({ service with store := service.store.heard } : Service).followChoice.store.SameContents
        store ∧
      service.run (StoreSession.tellings service.store.store.listeners.items optInKey ++ rest) =
        { ({ service with store := service.store.heard } : Service).followChoice with store } := by
  obtain ⟨number, held⟩ := Option.ne_none_iff_exists'.mp listens
  have listening := wired.guarded
  rw [held] at listening
  obtain ⟨back, split, unheard⟩ := listening.split
  obtain ⟨_, still⟩ := obeys.heard
  have moves : Moves StoreStep.Looks .restart
      ({ service with store := service.store.heard } : Service) _ := moves_followChoice _
  have looks := moves.preserves (·.store.Obeys StoreStep.Looks)
    (fun move => move.obeys StoreStep.isConduct_keeps) still
  have others : ∀ frame ∈ StoreSession.tellings back optInKey ++ rest, StoreSession.Quiet frame :=
    List.forall_mem_append.mpr ⟨StoreSession.quiet_tellings (.inl unheard), quiet⟩
  -- Those before and behind the service only look; in between it follows the choice.
  refine ⟨_, (looks.quiet_run others).1, ?_⟩
  rw [← run_quiet _ looks others, ← run_tell]
  conv_lhs => rw [split]
  unfold StoreSession.tellings
  rw [List.map_append, List.map_cons, List.append_assoc, run_append, List.cons_append]
  change (service.run (StoreSession.tellings _ optInKey)).run _ = _
  rw [service.run_quiet obeys (StoreSession.quiet_heard _)]
  rfl

theorem quiet_conclusion (result : StoreResult) :
    ∀ frame ∈ [StoreFrame.conclude none result, .take none []], StoreSession.Quiet frame := by
  intro frame member
  simp only [List.mem_cons, List.not_mem_nil, or_false] at member
  rcases member with rfl | rfl
  · exact ⟨trivial, StoreFrame.noConfusion⟩
  · exact ⟨List.forall_mem_nil _, StoreFrame.noConfusion⟩

theorem storedChoice_eq {value : Option Preference}
    (legible : ∀ text, value ≠ some (.text text))
    (stored : service.store.store.get? optInKey = value) :
    service.storedChoice = .ok (decide (value = some (.boolean true))) := by
  unfold storedChoice Store.getBoolean
  rw [stored]
  cases value with
  | none => rfl
  | some preference =>
      cases preference with
      | boolean choice => cases choice <;> rfl
      | text text => exact absurd rfl (legible text)

theorem Wired.renewed_change (wired : service.Wired) (listens : service.subscription ≠ none)
    (obeys : service.store.Obeys StoreStep.Looks) {value : Option Preference}
    (legible : ∀ text, value ≠ some (.text text))
    (rewrites : service.store.Rewrites optInKey value)
    (loads : ({ service with store := (service.store.perform (.put optInKey value)).2.2.heard } :
      Service).Loads) :
    (service.changePreferences (.put optInKey value)).Renewed service.clients.tasks.length
        (decide (value = some (.boolean true))) ∧
      (service.changePreferences (.put optInKey value)).store.deadlocked =
        service.store.deadlocked ∧
      ∀ index, service.current = some index →
        (service.changePreferences (.put optInKey value)).Ended index := by
  obtain ⟨disk, performed⟩ := rewrites.told
  let written : StoreSession := { service.store with
    disk
    store.values := service.store.store.values.put optInKey value }
  have stays : (StoreStep.put optInKey value).staysOpen = true := rfl
  have guarded := wired.guarded.perform stays
  rw [performed] at guarded loads
  have told : ({ service with store := written } : Service).Wired :=
    ⟨wired.kept, wired.inside, guarded⟩
  have looks : written.Obeys StoreStep.Looks := obeys
  obtain ⟨same, still⟩ := looks.heard
  obtain ⟨store, kept, result⟩ := told.run_tellings listens looks (quiet_conclusion .written)
  have read : ({ service with store := written.heard } : Service).storedChoice =
      .ok (decide (value = some (.boolean true))) :=
    storedChoice_eq legible ((same.get optInKey).trans (Values.get_put_self optInKey value _))
  obtain ⟨renewed, deadlocked⟩ := followChoice_renews { service with store := written.heard }
    wired.kept loads still read
  have changed : service.changePreferences (.put optInKey value) =
      { ({ service with store := written.heard } : Service).followChoice with store } := by
    rw [change_eq, performed]
    exact result
  rw [changed]
  refine ⟨⟨renewed.length, renewed.current, renewed.opened, renewed.token⟩, ?_, ?_⟩
  · exact kept.deadlocked.trans (deadlocked.trans same.deadlocked)
  · intro index held
    exact followChoice_ends { service with store := written.heard } wired.kept read held
      (wired.inside index held)

/-- Writes that come to nothing, or are none of the choice, leave the service alone. -/
theorem Wired.unmoved_change (wired : service.Wired) (obeys : service.store.Obeys StoreStep.Looks)
    {key : String} {value : Option Preference}
    (aside : key ≠ optInKey ∨ ¬service.store.Rewrites key value) :
    ∃ store, service.changePreferences (.put key value) = { service with store } ∧
      store.Guarded service.subscription := by
  by_cases rewrites : service.store.Rewrites key value
  · have apart : key ≠ optInKey := aside.resolve_right fun none => none rewrites
    obtain ⟨disk, performed⟩ := rewrites.told
    let written : StoreSession := { service.store with
      disk
      store.values := service.store.store.values.put key value }
    have looks : written.Obeys StoreStep.Looks := obeys
    have guarded : written.Guarded service.subscription :=
      wired.guarded.aside rfl rfl wired.guarded.obeys
    have quiet : ∀ frame ∈ StoreSession.tellings written.store.listeners.items key ++
        [.conclude none .written, .take none []], StoreSession.Quiet frame :=
      List.forall_mem_append.mpr
        ⟨StoreSession.quiet_tellings (.inr apart), quiet_conclusion .written⟩
    refine ⟨written.run _, ?_, guarded.run fun frame member => (quiet frame member).staysOpen⟩
    rw [change_eq, performed]
    exact run_quiet { service with store := written } looks quiet
  · obtain ⟨disk, result, unmoved⟩ := service.unwritten_change rewrites
    exact ⟨_, unmoved, wired.guarded.aside rfl rfl wired.guarded.obeys⟩

/-! ### The choice is changed -/

/-- After any operations a change of the stored choice to yes, to no, or to none that the service
notices is followed by exactly one new client, whatever became of the clients before, as long as
there are an installation id and settings that a client accepts. Other writes leave the service
alone. Listeners may look, but not write. -/
theorem choice_rebuilds {parts : ServiceParts} {environment : Environment} {disk : Disk}
    {directory : Place} (built : parts.build environment disk directory = .ok service)
    (unlistened : ∀ store, parts.store = some store → .service ∉ store.listeners.items)
    (unlisted : ∀ chain, parts.chain = some chain → .service ∉ chain.interceptors.items)
    (past : List Operation) :
    let reached := service.course past
    reached.subscription ≠ none → reached.store.Obeys StoreStep.Reads →
      (∀ value, (∀ text, value ≠ some (.text text)) → reached.store.Rewrites optInKey value →
        let told : Service :=
          { reached with store := (reached.store.perform (.put optInKey value)).2.2.heard }
        let after := reached.perform (.change (.put optInKey value) rfl)
        told.Loads →
          after.Renewed reached.clients.tasks.length (decide (value = some (.boolean true))) ∧
            after.chain.interceptors.ListsOnce .service after.token ∧
            (∀ index, reached.current = some index → after.Ended index) ∧
            after.store.deadlocked = reached.store.deadlocked) ∧
      ∀ key value, key ≠ optInKey ∨ ¬reached.store.Rewrites key value →
        ∃ store, reached.perform (.change (.put key value) rfl) = { reached with store } ∧
          store.store.listeners.ListsOnce .service reached.subscription := by
  intro reached listens reads
  obtain ⟨begun, _⟩ := wired_build built unlistened
  have wired : reached.Wired := begun.course_wired past
  have enlisted : reached.Enlisted := ((enlisted_build built unlisted).1.course past).1
  have looks : reached.store.Obeys StoreStep.Looks := by
    intro script member reaction held step there
    exact ⟨wired.guarded.obeys script member reaction held step there,
      reads script member reaction held step there⟩
  constructor
  · intro value legible rewrites told after loads
    obtain ⟨renewed, deadlocked, ended⟩ := wired.renewed_change listens looks legible rewrites loads
    exact ⟨renewed, (enlisted.perform _).1.chain.listsOnce, ended, deadlocked⟩
  · intro key value aside
    obtain ⟨store, result, guarded⟩ := wired.unmoved_change looks aside
    exact ⟨store, result, Registry.Enrolled.listsOnce guarded.own⟩

/-- A restart has failed for want of settings, which are to be had again; meanwhile somebody looks
at every change. -/
def failedRestart : List Operation :=
  [.start, .change (.subscribe "window" none [.get optInKey]) rfl, .resupply (.failing .noHome),
    .restart, .resupply (.fixed .atHand)]

theorem choice_rebuilds_failedRestart :
    let service := Service.atHand [] []
    let reached := service.course failedRestart
    let after := reached.perform (.change (.put optInKey (some (.boolean true))) rfl)
    reached.current = none ∧ reached.clients.tasks.length = 1 ∧ reached.subscription = some 0 ∧
      reached.store.Obeys StoreStep.Reads ∧
      reached.store.Rewrites optInKey (some (.boolean true)) ∧
      after.Renewed 1 true ∧ after.chain.interceptors.ListsOnce .service after.token ∧
      ∃ store, reached.perform (.change (.put "theme" (some (.text "dark"))) rfl) =
        { reached with store } ∧ store.store.listeners.ListsOnce .service (some 0) := by
  intro service reached after
  have current : reached.current = none := by decide +kernel
  have one : reached.clients.tasks.length = 1 := by decide +kernel
  have subscription : reached.subscription = some 0 := by decide +kernel
  have listens : reached.subscription ≠ none := by
    rw [subscription]
    exact Option.some_ne_none 0
  have asks : ∀ operation ∈ failedRestart, operation.Asks StoreStep.Looks := by
    simp only [failedRestart, List.forall_mem_cons, Operation.Asks]
    exact ⟨trivial, ⟨rfl, rfl, rfl, trivial⟩, trivial, trivial, trivial, List.forall_mem_nil _⟩
  have reads : reached.store.Obeys StoreStep.Reads := by
    have obeys : service.store.Obeys StoreStep.Looks := List.forall_mem_nil _
    intro script member reaction held step there
    exact (obeys_course StoreStep.isConduct_keeps asks obeys script member reaction held step
      there).2
  have rewrites : reached.store.Rewrites optInKey (some (.boolean true)) := by
    constructor
    · decide +kernel
    · decide +kernel
  obtain ⟨changes, others⟩ := choice_rebuilds (ServiceParts.build_atHand [] [])
    (ServiceParts.unlistened_atHand [] []) (ServiceParts.unlisted_atHand [] []) failedRestart
    listens reads
  have loads : ({ reached with
      store := (reached.store.perform (.put optInKey (some (.boolean true)))).2.2.heard } :
      Service).Loads := by
    refine ⟨⟨.atHand, ?_, .inr ?_⟩, "id", ?_⟩
    · decide +kernel
    · decide +kernel
    · decide +kernel
  obtain ⟨renewed, listed, _⟩ :=
    changes _ (fun _ => by simp) rewrites loads
  have apart : ("theme" : String) ≠ optInKey := by decide
  obtain ⟨store, unmoved, once⟩ := others "theme" (some (.text "dark")) (.inl apart)
  rw [one] at renewed
  rw [subscription] at once
  exact ⟨current, one, subscription, reads, rewrites, renewed, listed, store, unmoved, once⟩

end Service

/-- Settings with a base URL that is one only as long as the slash at its end is there. -/
def Settings.slashed : Settings where
  identity := Settings.atHand.identity
  delivery := { baseUrl := "x://u@\x01/" }
  paths := .standard

namespace Service

/-- Settings that are not read from sources are checked as they are given, and a client takes the
slashes off. -/
theorem choice_unfollowed_slashed :
    let parts := ServiceParts.atHand [] []
    let service := Service.atHand [] []
    let reached := service.course [.start, .resupply (.fixed .slashed)]
    let after := reached.perform (.change (.put optInKey (some (.boolean true))) rfl)
    parts.build {} {} [] = .ok service ∧
      (∀ store, parts.store = some store → .service ∉ store.listeners.items) ∧
      (∀ chain, parts.chain = some chain → .service ∉ chain.interceptors.items) ∧
      reached.subscription ≠ none ∧ reached.store.Obeys StoreStep.Reads ∧
      reached.store.Rewrites optInKey (some (.boolean true)) ∧
      (reached.supply.load reached.store.disk).1 = .ok .slashed ∧
      reached.store.obtainId.1 = .ok "id" ∧
      after.clients.tasks.length = reached.clients.tasks.length ∧ after.current = none := by
  intro parts service reached after
  have unlistened := ServiceParts.unlistened_atHand [] []
  have unlisted := ServiceParts.unlisted_atHand [] []
  refine ⟨ServiceParts.build_atHand [] [], unlistened, unlisted, ?_, ?_, ⟨?_, ?_⟩, ?_, ?_, ?_, ?_⟩
  · decide +kernel
  · have nobody : reached.store.scripts.length = 0 := by decide +kernel
    rw [List.length_eq_zero_iff] at nobody
    intro script member
    rw [nobody] at member
    cases member
  · decide +kernel
  · decide +kernel
  · decide +kernel
  · decide +kernel
  · decide +kernel
  · decide +kernel

end Service

end Telemetry
