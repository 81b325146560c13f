import Telemetry.Proofs.Preferences.Guard
import Telemetry.Proofs.Queue.Seal
import Telemetry.Proofs.Service.Start

/-! The user's choice has three copies: the stored one, the one that the service keeps, and the
switch of the current client. They are brought into step by every start and by every telling of a
change, and nothing else moves them. -/

namespace Telemetry

/-! ### Switches of clients -/

namespace Clients

variable {before after clients : Clients} {index : Nat}

theorem inside_leadsTo {kind : QueueEvent Client → Prop}
    (leads : Engine.LeadsTo kind before after) (inside : index < before.tasks.length) :
    index < after.tasks.length := by
  refine Engine.LeadsTo.preserves (index < ·.tasks.length) (fun clients event _ held => ?_)
    leads inside
  obtain ⟨next, there, _⟩ := Engine.task_after clients event (List.getElem?_eq_getElem held)
  exact (List.getElem?_eq_some_iff.mp there).1

theorem length_leadsTo {kind : QueueEvent Client → Prop}
    (leads : Engine.LeadsTo kind before after) : before.tasks.length ≤ after.tasks.length :=
  Nat.le_of_not_lt fun fewer => Nat.lt_irrefl _ (inside_leadsTo leads fewer)

theorem inside_setEnabled (inside : index < clients.tasks.length) (other : Nat) (enabled : Bool) :
    index < (clients.setEnabled other enabled).tasks.length := by
  have leads : Engine.LeadsTo QueueEvent.Silent clients (clients.setEnabled other enabled) :=
    clients.leadsTo_setEnabled other enabled trivial
  exact inside_leadsTo leads inside

theorem enabled_leadsTo (leads : Engine.LeadsTo QueueEvent.Tame before after) {client : Client}
    (found : before.client? index = some client) :
    ∃ later, after.client? index = some later ∧ later.enabled = client.enabled := by
  refine Engine.LeadsTo.preserves
    (fun clients => ∃ later, client? clients index = some later ∧ later.enabled = client.enabled)
    (fun clients event tame held => ?_) leads ⟨client, found, rfl⟩
  obtain ⟨owner, there, same⟩ := held
  obtain ⟨task, present, rfl⟩ := Option.map_eq_some_iff.mp there
  obtain ⟨next, reached, course⟩ := Engine.task_after clients event present
  refine ⟨next.owner, Option.map_eq_some_iff.mpr ⟨next, reached, rfl⟩, ?_⟩
  refine course.preserves (·.owner.enabled = client.enabled) (fun change kept => ?_) same
  rcases change.owner with unmoved | ⟨adjust, asked, moved⟩
  · rw [unmoved]
    exact kept
  · rw [asked] at tame
    rw [moved, tame]
    exact kept

theorem enabled_setEnabled (inside : index < clients.tasks.length) (enabled : Bool) :
    ∃ client, (clients.setEnabled index enabled).client? index = some client ∧
      client.enabled = enabled := by
  have present := List.getElem?_eq_getElem inside
  refine ⟨{ (clients.tasks[index]).owner with enabled }, ?_, rfl⟩
  unfold client? setEnabled modifyClient
  rw [Engine.task_modify, if_pos rfl, present]
  rfl

end Clients

namespace StoreSession

variable {subscription : Option Nat} {session : StoreSession}

theorem Guarded.subscribe (guarded : session.Guarded none) :
    ({ session with store := session.store.subscribe .service }).Guarded
      (some session.store.listeners.next) where
  own := Registry.Enrolled.add_own guarded.own
  others := by
    intro number member
    obtain ⟨below, _⟩ := guarded.others number member
    change number < session.store.listeners.next + 1 ∧ _
    refine ⟨Nat.lt_succ_of_lt below, ?_⟩
    intro same
    rw [Option.some.inj same] at below
    exact Nat.lt_irrefl _ below
  stays := guarded.stays

theorem Guarded.unsubscribe {number : Nat} (guarded : session.Guarded (some number)) :
    ({ session with store := session.store.unsubscribe number }).Guarded none where
  own := Registry.Enrolled.remove_own guarded.own
  others := fun other member => ⟨(guarded.others other member).1, (Option.some_ne_none other).symm⟩
  stays := guarded.stays

end StoreSession

namespace Service

/-- What ties a service to its client and its store, whatever the stored choice is. -/
structure Wired (service : Service) : Prop where
  kept : service.released = false
  inside : ∀ index, service.current = some index → index < service.clients.tasks.length
  guarded : service.store.Guarded service.subscription

/-- A service that listens and can read the stored choice has its client and its own copy of the
choice in step with it. -/
def InStep (agrees : Bool → Bool → Bool → Prop) (service : Service) : Prop :=
  ∀ index choice, service.current = some index → service.subscription ≠ none →
    service.storedChoice = .ok choice →
      ∃ client, Clients.client? service.clients index = some client ∧
        agrees client.enabled service.optedIn choice

variable {agrees : Bool → Bool → Bool → Prop} {service after : Service}

theorem Wired.routine (wired : service.Wired) (routine : service.Routine after) :
    after.Wired where
  kept := routine.released.trans wired.kept
  inside := by
    intro index held
    rw [routine.current] at held
    exact Clients.inside_leadsTo routine.clients (wired.inside index held)
  guarded := by
    rw [routine.store, routine.subscription]
    exact wired.guarded

theorem InStep.routine (inStep : service.InStep agrees) (routine : service.Routine after) :
    after.InStep agrees := by
  intro index choice held listens stored
  rw [routine.current] at held
  rw [routine.subscription] at listens
  have same : after.storedChoice = service.storedChoice := by
    unfold storedChoice
    rw [routine.store]
  rw [same] at stored
  obtain ⟨client, found, agree⟩ := inStep index choice held listens stored
  obtain ⟨later, there, enabled⟩ := Clients.enabled_leadsTo routine.clients found
  refine ⟨later, there, ?_⟩
  rw [enabled, routine.optedIn]
  exact agree

theorem InStep.idle (idle : service.current = none) : service.InStep agrees := by
  intro index choice held
  rw [idle] at held
  cases held

/-! ### Starts -/

theorem Wired.listen (wired : service.Wired) : service.listen.Wired := by
  unfold Service.listen
  cases held : service.subscription with
  | some number => exact wired
  | none =>
      refine ⟨wired.kept, wired.inside, ?_⟩
      have guarded := wired.guarded
      rw [held] at guarded
      exact guarded.subscribe

/-- Putting a client into use brings it into step, unless the choice cannot be read. -/
theorem Wired.startUsing (wired : service.Wired) {index : Nat}
    (inside : index < service.clients.tasks.length) (own : ∀ choice, agrees choice choice choice) :
    (service.startUsing index).2.Wired ∧ (service.startUsing index).2.InStep agrees := by
  obtain ⟨token, chain, bridge, panicHook, ⟨fault, unread, result⟩ | ⟨enabled, read, result⟩⟩ :=
    service.startUsing_cases index
  · rw [result]
    refine ⟨⟨wired.kept, ?_, wired.guarded⟩, ?_⟩
    · intro other held
      exact Option.some.inj held ▸ inside
    · intro other choice _ _ stored
      cases unread.symm.trans stored
  · rw [result]
    have switched : (({ service with current := some index, token, chain, bridge, panicHook } :
        Service).applyChoice index enabled).Wired := by
      refine ⟨wired.kept, ?_, wired.guarded⟩
      intro other held
      rw [← Option.some.inj held]
      exact Clients.inside_setEnabled inside index enabled
    refine ⟨switched.listen, ?_⟩
    obtain ⟨subscription, listeners, listening⟩ := listen_eq
      (({ service with current := some index, token, chain, bridge, panicHook } :
        Service).applyChoice index enabled)
    rw [listening]
    intro other choice held _ stored
    have same : enabled = choice := Except.ok.inj (read.symm.trans stored)
    obtain ⟨client, found, switch⟩ := Clients.enabled_setEnabled inside enabled
    rw [← Option.some.inj held]
    refine ⟨client, found, ?_⟩
    rw [switch, ← same]
    exact own enabled

theorem Wired.start (wired : service.Wired) (own : ∀ choice, agrees choice choice choice) :
    service.start.2.Wired ∧ service.start.2.InStep agrees := by
  obtain ⟨supply, store, clients, stored, leads, ending⟩ := service.start_cases
  have guarded : store.Guarded service.subscription := by
    rcases stored with rfl | rfl
    · exact wired.guarded
    · exact wired.guarded.obtainId
  have between : ({ service with supply, store, clients } : Service).Wired := by
    refine ⟨wired.kept, ?_, guarded⟩
    intro index held
    exact Clients.inside_leadsTo leads (wired.inside index held)
  rcases ending with ⟨idle, result⟩ | ⟨index, same, fresh, result⟩
  · rw [result]
    exact ⟨between, .idle idle⟩
  · rw [result]
    apply between.startUsing ?_ own
    cases held : service.current with
    | none => exact fresh held
    | some other =>
        obtain ⟨equal, _⟩ := same other held
        exact equal ▸ between.inside other held

theorem Wired.restart (wired : service.Wired) (own : ∀ choice, agrees choice choice choice) :
    service.restart.2.Wired ∧ service.restart.2.InStep agrees := by
  obtain ⟨clients, chain, leads, result⟩ := service.restart_eq
  rw [result]
  refine Wired.start ⟨wired.kept, ?_, wired.guarded⟩ own
  intro index held
  cases held

theorem Wired.log (wired : service.Wired) (events : List LogEvent) :
    (service.log events).Wired :=
  wired.routine (.of_clients service (.single service.clients (.log events) trivial))

theorem InStep.log (inStep : service.InStep agrees) (events : List LogEvent) :
    (service.log events).InStep agrees :=
  inStep.routine (.of_clients service (.single service.clients (.log events) trivial))

theorem Wired.followChoice (wired : service.Wired) (own : ∀ choice, agrees choice choice choice) :
    service.followChoice.Wired ∧ service.followChoice.InStep agrees := by
  rcases service.followChoice_cases wired.kept with
    ⟨fault, unread, result⟩ | ⟨enabled, optedIn, clients, events, read, leads, result⟩
  · rw [result]
    refine ⟨wired.log _, ?_⟩
    intro index choice _ _ stored
    cases unread.symm.trans stored
  · have noted : ({ service with optedIn, clients } : Service).Wired := by
      refine ⟨wired.kept, ?_, wired.guarded⟩
      intro index held
      exact Clients.inside_leadsTo leads (wired.inside index held)
    obtain ⟨restarted, inStep⟩ := noted.restart own
    rcases result with result | result
    · rw [result]
      exact ⟨restarted, inStep⟩
    · rw [result]
      exact ⟨restarted.log events, inStep.log events⟩

/-! ### Agendas -/

theorem storedChoice_congr
    (same : after.store.store.get? optInKey = service.store.store.get? optInKey) :
    after.storedChoice = service.storedChoice := by
  unfold storedChoice Store.getBoolean
  rw [same]

/-- The service takes the tellings that are meant for it, and follows the choice if it is told of
it; all other frames are for the store. -/
theorem step_cases (service : Service) (frame : StoreFrame) :
    (frame = .tell .service optInKey ∧ service.step frame = ([], service.followChoice)) ∨
      (∃ key, frame = .tell .service key ∧ key ≠ optInKey ∧ service.step frame = ([], service)) ∨
      (∀ key, frame ≠ .tell .service key) ∧ service.step frame =
        ((service.store.step frame).1, { service with store := (service.store.step frame).2 }) := by
  cases frame with
  | tell listener key =>
      cases listener with
      | scripted index =>
          refine .inr (.inr ⟨fun other same => ?_, rfl⟩)
          cases same
      | service =>
          by_cases awaited : key = optInKey
          · rw [awaited]
            exact .inl ⟨rfl, rfl⟩
          · exact .inr (.inl ⟨key, rfl, awaited, congrArg (Prod.mk []) (if_neg awaited)⟩)
  | take name steps => exact .inr (.inr ⟨fun other => StoreFrame.noConfusion, rfl⟩)
  | conclude name result => exact .inr (.inr ⟨fun other => StoreFrame.noConfusion, rfl⟩)

theorem Wired.listens_iff (wired : service.Wired) :
    service.subscription ≠ none ↔ .service ∈ service.store.store.listeners.items := by
  constructor
  · intro listens
    obtain ⟨number, held⟩ := Option.ne_none_iff_exists'.mp listens
    exact List.mem_map.mpr ⟨(number, .service), (wired.guarded.own number).mpr held, rfl⟩
  · intro member
    obtain ⟨⟨number, listener⟩, there, same⟩ := List.mem_map.mp member
    cases same
    rw [(wired.guarded.own number).mp there]
    exact Option.some_ne_none number

theorem Wired.step (wired : service.Wired) {frame : StoreFrame}
    (stays : StoreSession.StaysOpen frame) :
    (service.step frame).2.Wired ∧
      ∀ next ∈ (service.step frame).1, StoreSession.StaysOpen next := by
  rcases service.step_cases frame with ⟨_, followed⟩ | ⟨_, _, _, unmoved⟩ | ⟨_, passed⟩
  · have kept : service.followChoice.Wired ∧ service.followChoice.InStep fun _ _ _ => True :=
      wired.followChoice fun _ => trivial
    rw [followed]
    exact ⟨kept.1, List.forall_mem_nil _⟩
  · rw [unmoved]
    exact ⟨wired, List.forall_mem_nil _⟩
  · obtain ⟨guarded, news⟩ := wired.guarded.step stays
    rw [passed]
    exact ⟨⟨wired.kept, wired.inside, guarded⟩, news⟩

theorem run_append (service : Service) (first second : List StoreFrame) :
    service.run (first ++ second) = (service.run first).run second := by
  fun_induction Service.run service first with
  | case1 service => rfl
  | case2 service frame rest ih =>
      rw [List.cons_append, Service.run, ← List.append_assoc]
      exact ih

theorem run_tell (service : Service) (rest : List StoreFrame) :
    service.run (.tell .service optInKey :: rest) = service.followChoice.run rest := by
  rw [Service.run]
  rfl

theorem change_eq (service : Service) (next : StoreStep) :
    service.changePreferences next =
      ({ service with store := (service.store.perform next).2.2 } : Service).run
        ((service.store.perform next).1 ++
          [.conclude none (service.store.perform next).2.1, .take none []]) := by
  unfold changePreferences
  rw [Service.run, List.append_nil]
  rfl

theorem unwritten_change (service : Service) {key : String} {value : Option Preference}
    (unwritten : ¬service.store.Rewrites key value) :
    ∃ disk result, service.changePreferences (.put key value) =
      { service with store := { service.store with disk, result } } := by
  have concluded (store : StoreSession) (result : StoreResult) :
      ({ service with store } : Service).run [.conclude none result, .take none []] =
        { service with store := { store with result } } := by
    rw [Service.run]
    change ({ service with store := { store with result } } : Service).run [.take none []] = _
    rw [Service.run]
    change ({ service with store := { store with result } } : Service).run [] = _
    rw [Service.run]
  rw [change_eq]
  rcases service.store.perform_put key value with
    rewrites | ⟨disk, result, performed⟩
  · exact absurd rewrites unwritten
  · rw [performed]
    exact ⟨disk, result, concluded _ result⟩

/-- As long as the service is not told of the choice, a run is left to the store. -/
theorem run_aside (still : StoreSession → Prop) (meek : StoreFrame → Prop)
    (untold : ¬meek (.tell .service optInKey))
    (step : ∀ {session : StoreSession} {frame : StoreFrame}, meek frame → still session →
      still (session.step frame).2 ∧ ∀ next ∈ (session.step frame).1, meek next)
    {agenda : List StoreFrame} (suits : ∀ frame ∈ agenda, meek frame)
    (start : still service.store) :
    service.run agenda = { service with store := service.store.run agenda } := by
  fun_induction Service.run service agenda with
  | case1 service =>
      rw [StoreSession.run]
  | case2 service frame rest ih =>
      obtain ⟨first, others⟩ := List.forall_mem_cons.mp suits
      obtain ⟨kept, news⟩ := step first start
      have passed : service.step frame = ((service.store.step frame).1,
          { service with store := (service.store.step frame).2 }) := by
        rcases service.step_cases frame with
          ⟨told, _⟩ | ⟨key, told, unawaited, unmoved⟩ | ⟨_, passed⟩
        · exact absurd (told ▸ first) untold
        · rw [unmoved, told]
          simp only [StoreSession.step, if_neg unawaited]
        · exact passed
      rw [passed] at ih ⊢
      rw [StoreSession.run]
      exact ih (List.forall_mem_append.mpr ⟨news, others⟩) kept

/-- What every telling of the choice establishes, and what stays true while the stored choice stays
the same. Of a service that nobody tells anything it has to be true anyway. -/
structure Follows (base holds : Service → Prop) : Prop where
  wired : ∀ {service : Service}, base service → service.Wired
  keeps : ∀ {service : Service} {frame : StoreFrame}, StoreSession.StaysOpen frame →
    base service → base (service.step frame).2
  told : ∀ {service : Service}, base service → holds service.followChoice
  aside : ∀ {service : Service} (store : StoreSession),
    store.store.get? optInKey = service.store.store.get? optInKey → holds service →
      holds { service with store }
  unheard : ∀ {service : Service}, service.subscription = none → holds service

/-- While an agenda is worked off, it is true, or the service is still to be told. -/
theorem Follows.run {base holds : Service → Prop} (follows : Follows base holds)
    {agenda : List StoreFrame} (stays : ∀ frame ∈ agenda, StoreSession.StaysOpen frame)
    (start : base service) (following : holds service ∨ .tell .service optInKey ∈ agenda) :
    base (service.run agenda) ∧ holds (service.run agenda) := by
  fun_induction Service.run service agenda with
  | case1 service =>
      refine ⟨start, ?_⟩
      rcases following with true | pending
      · exact true
      · cases pending
  | case2 service frame rest ih =>
      obtain ⟨first, others⟩ := List.forall_mem_cons.mp stays
      obtain ⟨_, news⟩ := (follows.wired start).step first
      refine ih (List.forall_mem_append.mpr ⟨news, others⟩) (follows.keeps first start) ?_
      -- What a frame puts off is put in front of the rest, so it is not lost sight of.
      rcases service.step_cases frame with
        ⟨_, followed⟩ | ⟨key, rfl, unawaited, unmoved⟩ | ⟨other, passed⟩
      · rw [followed]
        exact .inl (follows.told start)
      · rw [unmoved]
        refine following.imp_right fun pending => ?_
        rcases List.mem_cons.mp pending with here | there
        · exact absurd (StoreFrame.tell.inj here).2.symm unawaited
        · exact there
      · rw [passed]
        rcases following with true | pending
        · rcases service.store.told_step first with ⟨_, same⟩ | ⟨changed, told, same⟩
          · exact .inl (follows.aside _ (same optInKey) true)
          · by_cases chosen : optInKey = changed
            · by_cases listens : service.subscription = none
              · exact .inl (follows.unheard listens)
              · have heard := (follows.wired start).listens_iff.mp listens
                exact .inr (List.mem_append_left rest
                  ((told .service optInKey).mpr ⟨heard, chosen⟩))
            · exact .inl (follows.aside _ (same optInKey chosen) true)
        · rcases List.mem_cons.mp pending with here | there
          · exact absurd here.symm (other optInKey)
          · exact .inr (List.mem_append_right _ there)

theorem follows_inStep (own : ∀ choice, agrees choice choice choice) :
    Follows Wired (InStep agrees) where
  wired := id
  keeps := fun stays wired => (wired.step stays).1
  told := fun wired => (wired.followChoice own).2
  aside := by
    intro service store same inStep index choice held listens stored
    exact inStep index choice held listens ((storedChoice_congr same).symm.trans stored)
  unheard := by
    intro service silent index choice _ listens
    exact absurd silent listens

/-! ### Runs -/

end Service

/-- Operations that leave the choice in step: a choice that the application makes itself has to
agree with every stored one. -/
def Operation.Heeds (agrees : Bool → Bool → Bool → Prop) : Operation → Prop
  | .setOptIn enabled => ∀ choice, agrees enabled enabled choice
  | .onClient _ (.setEnabled _) => False
  | _ => True

namespace Service

variable {agrees : Bool → Bool → Bool → Prop} {service : Service}

theorem Wired.stopListening (wired : service.Wired) : service.stopListening.Wired := by
  unfold Service.stopListening
  cases held : service.subscription with
  | none => exact wired
  | some number =>
      have guarded := wired.guarded
      rw [held] at guarded
      exact ⟨wired.kept, wired.inside, guarded.unsubscribe⟩

theorem Wired.detach (wired : service.Wired) :
    service.detach.Wired ∧ service.detach.current = none := by
  have silent := (wired.routine service.routine_stopIntercepting).stopListening
  obtain ⟨panicHook, unbridged⟩ := service.stopIntercepting.stopListening.unbridgePanics_eq
  unfold Service.detach
  rw [unbridged]
  refine ⟨⟨silent.kept, ?_, silent.guarded⟩, rfl⟩
  intro index held
  cases held

theorem Wired.setOptIn (wired : service.Wired) {enabled : Bool}
    (heeds : ∀ choice, agrees enabled enabled choice) (inStep : service.InStep agrees) :
    (service.setOptIn enabled).2.Wired ∧ (service.setOptIn enabled).2.InStep agrees := by
  unfold Service.setOptIn
  cases held : service.current with
  | none => exact ⟨wired, inStep⟩
  | some index =>
      have inside := wired.inside index held
      refine ⟨⟨wired.kept, ?_, wired.guarded⟩, ?_⟩
      · intro other same
        exact Clients.inside_setEnabled (wired.inside other same) index enabled
      · intro other choice same _ _
        obtain ⟨client, found, switch⟩ := Clients.enabled_setEnabled inside enabled
        rw [← Option.some.inj (held.symm.trans same)]
        refine ⟨client, found, ?_⟩
        rw [switch]
        exact heeds choice

theorem Wired.perform (wired : service.Wired) (own : ∀ choice, agrees choice choice choice)
    {operation : Operation} (heeds : operation.Heeds agrees) (inStep : service.InStep agrees) :
    (service.perform operation).Wired ∧ (service.perform operation).InStep agrees := by
  have plainly (plain : operation.IsPlain) :
      (service.perform operation).Wired ∧ (service.perform operation).InStep agrees :=
    ⟨wired.routine (service.routine_perform plain), inStep.routine (service.routine_perform plain)⟩
  cases operation with
  | start => exact wired.start own
  | restart => exact wired.restart own
  | shutdown =>
      obtain ⟨detached, idle⟩ := wired.detach
      obtain ⟨clients, result, _⟩ := service.shutdown_eq
      simp only [Service.perform, result]
      refine ⟨⟨detached.kept, ?_, detached.guarded⟩, .idle idle⟩
      intro index held
      cases idle.symm.trans held
  | detach =>
      obtain ⟨detached, idle⟩ := wired.detach
      exact ⟨detached, .idle idle⟩
  | setOptIn enabled => exact wired.setOptIn heeds inStep
  | change step stays =>
      exact (follows_inStep own).run (StoreSession.staysOpen_take stays) wired (.inl inStep)
  | onClient index operation =>
      cases operation with
      | setEnabled enabled => exact heeds.elim
      | _ => exact plainly trivial
  | _ => exact plainly trivial

theorem Wired.course (wired : service.Wired) (own : ∀ choice, agrees choice choice choice)
    {operations : List Operation} (heed : ∀ operation ∈ operations, operation.Heeds agrees)
    (inStep : service.InStep agrees) :
    (service.course operations).Wired ∧ (service.course operations).InStep agrees :=
  course_preserves (fun reached => reached.Wired ∧ reached.InStep agrees)
    (fun _ operation member held => held.1.perform own (heed operation member) held.2)
    ⟨wired, inStep⟩

end Service

end Telemetry
