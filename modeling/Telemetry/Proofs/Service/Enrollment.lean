import Telemetry.Proofs.Preferences.Rearrangement
import Telemetry.Proofs.Service.FailedStart
import Telemetry.Proofs.Service.Mirror

/-! Registrations of a service. It has at most one place in the chain, at most one among the
listeners of its store and at most one bridge for panics, and each is the one that it keeps a number
or a bridge for. Whatever it does, the places of all others stay as they are. -/

namespace Telemetry

namespace Service

/-- The service is in the chain under its token, and the bridge that it keeps is the only one. -/
structure Enlisted (service : Service) : Prop where
  chain : service.chain.interceptors.Enrolled .service service.token
  bridge : service.bridge = none ∧ service.panicHook = .initial ∨
    service.ownsChain = true ∧ service.bridge = some ⟨.initial⟩ ∧
      service.panicHook = .bridged () .initial

structure KeepsPlaces (before after : Service) : Prop where
  enlisted : after.Enlisted
  ownsChain : after.ownsChain = before.ownsChain
  others : after.chain.interceptors.others .service = before.chain.interceptors.others .service
  terminal : after.chain.terminal = before.chain.terminal

variable {service before between after : Service}

theorem KeepsPlaces.trans (first : before.KeepsPlaces between)
    (second : between.KeepsPlaces after) : before.KeepsPlaces after where
  enlisted := second.enlisted
  ownsChain := second.ownsChain.trans first.ownsChain
  others := second.others.trans first.others
  terminal := second.terminal.trans first.terminal

theorem Enlisted.refl (enlisted : service.Enlisted) : service.KeepsPlaces service :=
  ⟨enlisted, rfl, rfl, rfl⟩

/-- What an operation does apart from the chain and the panic hook has no part in this. -/
theorem Enlisted.aside (enlisted : before.Enlisted) (token : after.token = before.token)
    (chain : after.chain = before.chain) (bridge : after.bridge = before.bridge)
    (panicHook : after.panicHook = before.panicHook)
    (ownsChain : after.ownsChain = before.ownsChain) : before.KeepsPlaces after := by
  refine ⟨⟨?_, ?_⟩, ownsChain, by rw [chain], by rw [chain]⟩
  · rw [chain, token]
    exact enlisted.chain
  · rw [bridge, panicHook, ownsChain]
    exact enlisted.bridge

theorem Enlisted.intercept (enlisted : service.Enlisted) :
    service.KeepsPlaces service.intercept := by
  unfold Service.intercept
  cases held : service.token with
  | some number => exact enlisted.refl
  | none =>
      have unlisted := enlisted.chain
      rw [held] at unlisted
      exact ⟨⟨unlisted.add_own, enlisted.bridge⟩, rfl, Registry.others_add_own, rfl⟩

theorem Enlisted.stopIntercepting (enlisted : service.Enlisted) :
    service.KeepsPlaces service.stopIntercepting := by
  unfold Service.stopIntercepting
  cases held : service.token with
  | none => exact enlisted.refl
  | some number =>
      have listed := enlisted.chain
      rw [held] at listed
      exact ⟨⟨listed.remove_own, enlisted.bridge⟩, rfl, listed.others_remove_own, rfl⟩

theorem Enlisted.bridgePanics (enlisted : service.Enlisted) :
    service.KeepsPlaces service.bridgePanics := by
  unfold Service.bridgePanics
  split
  · rename_i missing
    rw [Bool.and_eq_true] at missing
    rcases enlisted.bridge with ⟨none, initial⟩ | ⟨_, bridged, _⟩
    · refine ⟨⟨enlisted.chain, .inr ⟨missing.1, ?_⟩⟩, rfl, rfl, rfl⟩
      rw [initial]
      exact ⟨rfl, rfl⟩
    · rw [bridged] at missing
      cases missing.2
  · exact enlisted.refl

theorem Enlisted.unbridgePanics (enlisted : service.Enlisted) :
    service.KeepsPlaces service.unbridgePanics := by
  unfold Service.unbridgePanics
  cases held : service.bridge with
  | none => exact enlisted.refl
  | some bridge =>
      refine ⟨⟨enlisted.chain, .inl ⟨rfl, ?_⟩⟩, rfl, rfl, rfl⟩
      rcases enlisted.bridge with ⟨none, _⟩ | ⟨_, bridged, _⟩
      · cases none.symm.trans held
      · cases bridged.symm.trans held
        rfl

theorem Enlisted.startUsing (enlisted : service.Enlisted) (index : Nat) :
    service.KeepsPlaces (service.startUsing index).2 := by
  have chosen : service.KeepsPlaces { service with current := some index } :=
    enlisted.aside rfl rfl rfl rfl rfl
  have intercepted := chosen.trans chosen.enlisted.intercept
  have ready := intercepted.trans intercepted.enlisted.bridgePanics
  unfold Service.startUsing
  dsimp only
  split
  · exact ready
  · rename_i enabled _
    obtain ⟨subscription, listeners, listening⟩ := listen_eq
      (({ service with current := some index }.intercept.bridgePanics).applyChoice index enabled)
    rw [listening]
    exact ready.trans (ready.enlisted.aside rfl rfl rfl rfl rfl)

theorem Enlisted.start (enlisted : service.Enlisted) : service.KeepsPlaces service.start.2 := by
  obtain ⟨supply, store, clients, _, _, ⟨_, result⟩ | ⟨index, _, _, result⟩⟩ :=
    service.start_cases
  · rw [result]
    exact enlisted.aside rfl rfl rfl rfl rfl
  · have ready : service.KeepsPlaces { service with supply, store, clients } :=
      enlisted.aside rfl rfl rfl rfl rfl
    rw [result]
    exact ready.trans (ready.enlisted.startUsing index)

theorem Enlisted.restart (enlisted : service.Enlisted) :
    service.KeepsPlaces service.restart.2 := by
  obtain ⟨clients, dropped, _⟩ := service.dropClient_eq
  have idle : service.KeepsPlaces service.dropClient := by
    rw [dropped]
    exact enlisted.aside rfl rfl rfl rfl rfl
  have stopped := idle.trans idle.enlisted.stopIntercepting
  exact stopped.trans stopped.enlisted.start

theorem Enlisted.followChoice (enlisted : service.Enlisted) :
    service.KeepsPlaces service.followChoice := by
  cases kept : service.released with
  | true =>
      unfold Service.followChoice
      rw [if_pos kept]
      exact enlisted.refl
  | false =>
      rcases service.followChoice_cases kept with
        ⟨fault, _, result⟩ | ⟨enabled, optedIn, clients, events, _, _, result⟩
      · rw [result]
        exact enlisted.aside rfl rfl rfl rfl rfl
      · have applied : service.KeepsPlaces { service with optedIn, clients } :=
          enlisted.aside rfl rfl rfl rfl rfl
        have restarted := applied.trans applied.enlisted.restart
        rcases result with result | result
        · rw [result]
          exact restarted
        · rw [result]
          exact restarted.trans (restarted.enlisted.aside rfl rfl rfl rfl rfl)

theorem Enlisted.run (enlisted : service.Enlisted) (agenda : List StoreFrame) :
    service.KeepsPlaces (service.run agenda) := by
  fun_induction Service.run service agenda with
  | case1 service => exact enlisted.refl
  | case2 service frame rest ih =>
      have first : service.KeepsPlaces (service.step frame).2 := by
        rcases service.step_cases frame with
          ⟨_, followed⟩ | ⟨_, _, _, unmoved⟩ | ⟨_, passed⟩
        · rw [followed]
          exact enlisted.followChoice
        · rw [unmoved]
          exact enlisted.refl
        · rw [passed]
          exact enlisted.aside rfl rfl rfl rfl rfl
      exact first.trans (ih first.enlisted)

theorem Enlisted.detach (enlisted : service.Enlisted) : service.KeepsPlaces service.detach := by
  have stopped := enlisted.stopIntercepting
  obtain ⟨listeners, silenced⟩ := service.stopIntercepting.stopListening_eq
  have silent : service.KeepsPlaces service.stopIntercepting.stopListening := by
    rw [silenced]
    exact stopped.trans (stopped.enlisted.aside rfl rfl rfl rfl rfl)
  have unbridged := silent.trans silent.enlisted.unbridgePanics
  exact unbridged.trans (unbridged.enlisted.aside rfl rfl rfl rfl rfl)

theorem Enlisted.send (enlisted : service.Enlisted) (hit : Hit) :
    service.KeepsPlaces (service.send hit).2 := by
  unfold Service.send
  split
  · exact enlisted.refl
  · exact enlisted.aside rfl rfl rfl rfl rfl

end Service

/-- Somebody else takes or gives up a place in the chain, or takes the last one. -/
def Operation.IsForeign : Operation → Prop
  | .enlist _ | .dismiss _ | .setTerminal _ => True
  | _ => False

namespace Service

variable {service : Service}

theorem Enlisted.keepsPlaces (enlisted : service.Enlisted) {operation : Operation}
    (own : ¬operation.IsForeign) : service.KeepsPlaces (service.perform operation) := by
  have sends (later : Service) (hit : Hit) (kept : service.KeepsPlaces later) :
      service.KeepsPlaces (later.send hit).2 := kept.trans (kept.enlisted.send hit)
  have records (later : Service) (records : List (String × String))
      (kept : service.KeepsPlaces later) : service.KeepsPlaces { later with records } :=
    kept.trans (kept.enlisted.aside rfl rfl rfl rfl rfl)
  cases operation with
  | start => exact enlisted.start
  | restart => exact enlisted.restart
  | shutdown =>
      obtain ⟨clients, result, _⟩ := service.shutdown_eq
      have detached := enlisted.detach
      simp only [Service.perform, result]
      exact detached.trans (detached.enlisted.aside rfl rfl rfl rfl rfl)
  | detach => exact enlisted.detach
  | setOptIn enabled =>
      obtain ⟨optedIn, clients, result, _⟩ := service.setOptIn_eq enabled
      simp only [Service.perform, result]
      exact enlisted.aside rfl rfl rfl rfl rfl
  | setDryRun dryRun =>
      simp only [Service.perform, Service.setDryRun]
      split
      · exact enlisted.aside rfl rfl rfl rfl rfl
      · exact enlisted.aside rfl rfl rfl rfl rfl
  | intercept => exact enlisted.intercept
  | stopIntercepting => exact enlisted.stopIntercepting
  | report report =>
      obtain ⟨hit, same⟩ := service.report_sends report
      simp only [Service.perform, same]
      exact enlisted.send hit
  | flush =>
      simp only [Service.perform, Service.flush]
      split
      · exact enlisted.refl
      · exact enlisted.aside rfl rfl rfl rfl rfl
  | dispatch exception =>
      exact dispatch_preserves service.KeepsPlaces sends records exception service enlisted.refl
  | panic exception =>
      exact panic_preserves service.KeepsPlaces sends records exception service enlisted.refl
  | change step stays => exact enlisted.run _
  | forget index =>
      simp only [Service.perform]
      split
      · exact enlisted.refl
      · exact enlisted.aside rfl rfl rfl rfl rfl
  | enlist name => exact absurd trivial own
  | dismiss number => exact absurd trivial own
  | setTerminal name => exact absurd trivial own
  | resupply supply => exact enlisted.aside rfl rfl rfl rfl rfl
  | onClient index operation => exact enlisted.aside rfl rfl rfl rfl rfl
  | go index place => exact enlisted.aside rfl rfl rfl rfl rfl
  | tick milliseconds => exact enlisted.aside rfl rfl rfl rfl rfl
  | sleep milliseconds => exact enlisted.aside rfl rfl rfl rfl rfl

/-- What others do about their places leaves the place of the service alone. -/
theorem Enlisted.perform (enlisted : service.Enlisted) (operation : Operation) :
    (service.perform operation).Enlisted ∧
      (service.perform operation).ownsChain = service.ownsChain := by
  by_cases foreign : operation.IsForeign
  · cases operation with
    | enlist name =>
        exact ⟨⟨enlisted.chain.add_other ChainMember.noConfusion, enlisted.bridge⟩, rfl⟩
    | dismiss number =>
        simp only [Service.perform]
        split
        · exact ⟨enlisted, rfl⟩
        · rename_i other
          exact ⟨⟨enlisted.chain.remove_other other, enlisted.bridge⟩, rfl⟩
    | setTerminal name => exact ⟨⟨enlisted.chain, enlisted.bridge⟩, rfl⟩
    | _ => exact foreign.elim
  · have kept := enlisted.keepsPlaces foreign
    exact ⟨kept.enlisted, kept.ownsChain⟩

theorem Enlisted.course (enlisted : service.Enlisted) (operations : List Operation) :
    (service.course operations).Enlisted ∧
      (service.course operations).ownsChain = service.ownsChain := by
  refine course_preserves
    (fun reached => reached.Enlisted ∧ reached.ownsChain = service.ownsChain)
    (fun reached operation _ held => ?_) ⟨enlisted, rfl⟩
  obtain ⟨kept, same⟩ := held.1.perform operation
  exact ⟨kept, same.trans held.2⟩

theorem enlisted_build {parts : ServiceParts} {environment : Environment} {disk : Disk}
    {directory : Place} (built : parts.build environment disk directory = .ok service)
    (unlisted : ∀ chain, parts.chain = some chain → .service ∉ chain.interceptors.items) :
    service.Enlisted ∧ service.ownsChain = parts.chain.isNone := by
  obtain ⟨supply, store, _, rfl⟩ := ServiceParts.build_eq built
  refine ⟨⟨?_, .inl ⟨rfl, rfl⟩⟩, rfl⟩
  intro number
  simp only [reduceCtorEq, iff_false]
  intro member
  cases given : parts.chain with
  | none =>
      rw [given] at member
      cases member
  | some chain =>
      rw [given] at member
      exact unlisted chain given (List.mem_map.mpr ⟨_, member, rfl⟩)

variable {asked : Nat → Prop}

theorem keepsListeners_listen (service : Service) (peaceful : service.store.Peaceful asked) :
    service.store.KeepsListeners asked service.listen.store := by
  unfold listen
  split
  · exact peaceful.refl
  · exact ⟨peaceful, .of_others rfl (Nat.le_succ _) Registry.others_add_own⟩

theorem Wired.keepsListeners_stopListening (wired : service.Wired)
    (peaceful : service.store.Peaceful asked) :
    service.store.KeepsListeners asked service.stopListening.store := by
  unfold Service.stopListening
  cases held : service.subscription with
  | none => exact peaceful.refl
  | some number =>
      have guarded := wired.guarded
      rw [held] at guarded
      exact ⟨peaceful, .of_others rfl (Nat.le_refl _)
        (Registry.Enrolled.others_remove_own guarded.own)⟩

theorem keepsListeners_start (service : Service) (peaceful : service.store.Peaceful asked) :
    service.store.KeepsListeners asked service.start.2.store := by
  obtain ⟨supply, store, clients, stored, _, ending⟩ := service.start_cases
  have obtained : service.store.KeepsListeners asked store := by
    rcases stored with rfl | rfl
    · exact peaceful.refl
    · exact peaceful.obtainId
  rcases ending with ⟨_, result⟩ | ⟨index, _, _, result⟩
  · rw [result]
    exact obtained
  · obtain ⟨token, chain, bridge, panicHook, ⟨fault, _, used⟩ | ⟨enabled, _, used⟩⟩ :=
      startUsing_cases { service with supply, store, clients } index
    · rw [result, used]
      exact obtained
    · rw [result, used]
      exact obtained.trans (keepsListeners_listen (({ service with
        supply, store, clients, current := some index, token, chain, bridge,
        panicHook }).applyChoice index enabled) obtained.peaceful)

theorem keepsListeners_restart (service : Service) (peaceful : service.store.Peaceful asked) :
    service.store.KeepsListeners asked service.restart.2.store := by
  obtain ⟨clients, chain, _, result⟩ := service.restart_eq
  rw [result]
  exact keepsListeners_start { service with current := none, clients, token := none, chain }
    peaceful

theorem keepsListeners_followChoice (kept : service.released = false)
    (peaceful : service.store.Peaceful asked) :
    service.store.KeepsListeners asked service.followChoice.store := by
  rcases service.followChoice_cases kept with
    ⟨fault, _, result⟩ | ⟨enabled, optedIn, clients, events, _, _, result | result⟩
  · rw [result]
    exact peaceful.refl
  · rw [result]
    exact keepsListeners_restart { service with optedIn, clients } peaceful
  · rw [result]
    exact keepsListeners_restart { service with optedIn, clients } peaceful

theorem Wired.keepsListeners_run (wired : service.Wired) {agenda : List StoreFrame}
    (stays : ∀ frame ∈ agenda, StoreSession.StaysOpen frame)
    (spares : ∀ frame ∈ agenda, StoreSession.Fits (StoreStep.Spares asked) frame)
    (peaceful : service.store.Peaceful asked) :
    service.store.KeepsListeners asked (service.run agenda).store := by
  fun_induction Service.run service agenda with
  | case1 service => exact peaceful.refl
  | case2 service frame rest ih =>
      obtain ⟨stay, others⟩ := List.forall_mem_cons.mp stays
      obtain ⟨fits, suit⟩ := List.forall_mem_cons.mp spares
      obtain ⟨kept, news⟩ := wired.step stay
      have first : service.store.KeepsListeners asked (service.step frame).2.store ∧
          ∀ next ∈ (service.step frame).1, StoreSession.Fits (StoreStep.Spares asked) next := by
        rcases service.step_cases frame with
          ⟨_, followed⟩ | ⟨_, _, _, unmoved⟩ | ⟨_, passed⟩
        · rw [followed]
          exact ⟨keepsListeners_followChoice wired.kept peaceful, List.forall_mem_nil _⟩
        · rw [unmoved]
          exact ⟨peaceful.refl, List.forall_mem_nil _⟩
        · obtain ⟨ending, told⟩ := peaceful.step fits
          rw [passed]
          exact ⟨⟨ending, service.store.rearranged_step fits⟩, told⟩
      exact first.1.trans (ih kept (List.forall_mem_append.mpr ⟨news, others⟩)
        (List.forall_mem_append.mpr ⟨first.2, suit⟩) first.1.peaceful)

end Service

/-- Of all subscriptions an operation cancels only those with the given indices. -/
def Operation.CancelsOnly (asked : Nat → Prop) : Operation → Prop
  | .change step _ => step.CancelsOnly asked
  | _ => True

namespace Service

variable {service : Service} {asked : Nat → Prop}

theorem Wired.keepsListeners_detach (wired : service.Wired)
    (peaceful : service.store.Peaceful asked) :
    service.store.KeepsListeners asked service.detach.store := by
  have routine := service.routine_stopIntercepting
  have still := wired.routine routine
  rw [← routine.store] at peaceful ⊢
  obtain ⟨panicHook, unbridged⟩ := service.stopIntercepting.stopListening.unbridgePanics_eq
  unfold Service.detach
  rw [unbridged]
  exact still.keepsListeners_stopListening peaceful

theorem Wired.keepsListeners_perform (wired : service.Wired) {operation : Operation}
    (cancels : operation.CancelsOnly asked) (peaceful : service.store.Peaceful asked) :
    service.store.KeepsListeners asked (service.perform operation).store := by
  have plainly (plain : operation.IsPlain) :
      service.store.KeepsListeners asked (service.perform operation).store := by
    rw [(service.routine_perform plain).store]
    exact peaceful.refl
  cases operation with
  | start => exact keepsListeners_start service peaceful
  | restart => exact keepsListeners_restart service peaceful
  | shutdown =>
      obtain ⟨clients, result, _⟩ := service.shutdown_eq
      simp only [Service.perform, result]
      exact wired.keepsListeners_detach peaceful
  | detach => exact wired.keepsListeners_detach peaceful
  | setOptIn enabled =>
      obtain ⟨optedIn, clients, result, _⟩ := service.setOptIn_eq enabled
      simp only [Service.perform, result]
      exact peaceful.refl
  | change step stays =>
      apply wired.keepsListeners_run (StoreSession.staysOpen_take stays) _ peaceful
      intro frame member
      rw [List.mem_singleton.mp member]
      exact List.forall_mem_singleton.mpr ⟨stays, cancels⟩
  | onClient index operation => exact peaceful.refl
  | _ => exact plainly trivial

/-- Whoever touches the choice, the service stays tied to its client and its store. -/
theorem Wired.persists (wired : service.Wired) (operation : Operation) :
    (service.perform operation).Wired := by
  have inStep : service.InStep fun _ _ _ => True := by
    intro index choice held _ _
    have present := List.getElem?_eq_getElem (wired.inside index held)
    exact ⟨_, Option.map_eq_some_iff.mpr ⟨_, present, rfl⟩, trivial⟩
  have heeding (heeds : operation.Heeds fun _ _ _ => True) : (service.perform operation).Wired :=
    (wired.perform (fun _ => trivial) heeds inStep).1
  cases operation with
  | setOptIn enabled => exact heeding fun _ => trivial
  | onClient index operation =>
      cases operation with
      | setEnabled enabled =>
          refine ⟨wired.kept, ?_, wired.guarded⟩
          intro other held
          have lent : other < service.lendClients.tasks.length := wired.inside other held
          exact Clients.inside_setEnabled lent index enabled
      | _ => exact heeding trivial
  | _ => exact heeding trivial

theorem Wired.course_wired (wired : service.Wired) (operations : List Operation) :
    (service.course operations).Wired :=
  course_preserves Wired (fun _ operation _ held => held.persists operation) wired

theorem startUsing_registers {index started : Nat}
    (ok : (service.startUsing index).1 = .ok started) :
    (service.startUsing index).2.token ≠ none ∧
      (service.startUsing index).2.subscription ≠ none := by
  have intercepts := intercept_intercepts { service with current := some index }
  obtain ⟨bridge, panicHook, bridged⟩ :=
    ({ service with current := some index } : Service).intercept.bridgePanics_eq
  unfold startUsing at ok ⊢
  rw [bridged] at ok ⊢
  dsimp only at ok ⊢
  split at ok
  · cases ok
  · rename_i enabled _
    refine ⟨?_, listen_listens⟩
    obtain ⟨subscription, listeners, listening⟩ := listen_eq
      (({ ({ service with current := some index } : Service).intercept with
        bridge, panicHook } : Service).applyChoice index enabled)
    rw [listening]
    exact intercepts

theorem start_registers {index : Nat} (ok : service.start.1 = .ok index) :
    service.start.2.token ≠ none ∧ service.start.2.subscription ≠ none := by
  unfold start at ok ⊢
  split at ok
  · exact startUsing_registers ok
  · dsimp only at ok ⊢
    split at ok
    · cases ok
    · exact startUsing_registers ok

/-- After any operations the service is registered in the chain and with the store exactly as it has
noted, and bridges panics at most once and only to a chain of its own. A start that succeeds leaves
it registered with both. Others keep their places in the chain under everything that the service
does; listeners go only where a step or a reaction says so. -/
theorem registrations_exact {parts : ServiceParts} {environment : Environment} {disk : Disk}
    {directory : Place} (built : parts.build environment disk directory = .ok service)
    (unlistened : ∀ store, parts.store = some store → .service ∉ store.listeners.items)
    (unlisted : ∀ chain, parts.chain = some chain → .service ∉ chain.interceptors.items)
    (operations : List Operation) :
    let reached := service.course operations
    reached.chain.interceptors.ListsOnce .service reached.token ∧
      reached.store.store.listeners.ListsOnce .service reached.subscription ∧
      reached.panicHook.chains.length = (if reached.bridge.isSome then 1 else 0) ∧
      (reached.bridge ≠ none → parts.chain = none) ∧
      (∀ index, reached.start.1 = .ok index →
        reached.start.2.token ≠ none ∧ reached.start.2.subscription ≠ none) ∧
      (∀ index, reached.restart.1 = .ok index →
        reached.restart.2.token ≠ none ∧ reached.restart.2.subscription ≠ none) ∧
      ∀ operation,
        (¬operation.IsForeign →
          (reached.perform operation).chain.interceptors.others .service =
              reached.chain.interceptors.others .service ∧
            (reached.perform operation).chain.terminal = reached.chain.terminal) ∧
        ∀ asked, operation.CancelsOnly asked →
          reached.store.Obeys (StoreStep.CancelsOnly asked) →
            reached.store.Rearranged asked (reached.perform operation).store := by
  intro reached
  obtain ⟨initial, owns⟩ := enlisted_build built unlisted
  obtain ⟨enlisted, same⟩ := initial.course operations
  have owned : reached.ownsChain = parts.chain.isNone := same.trans owns
  have wired : reached.Wired := by
    obtain ⟨begun, _⟩ := wired_build built unlistened
    exact course_preserves Wired (fun _ operation _ held => held.persists operation) begun
  refine ⟨enlisted.chain.listsOnce, Registry.Enrolled.listsOnce wired.guarded.own, ?_, ?_,
    fun _ => start_registers, fun _ => start_registers, fun operation => ⟨?_, ?_⟩⟩
  · rcases enlisted.bridge with ⟨none, initial⟩ | ⟨_, bridged, panicHook⟩
    · rw [none, initial]
      rfl
    · rw [bridged, panicHook]
      rfl
  · intro held
    rcases enlisted.bridge with ⟨none, _⟩ | ⟨own, _, _⟩
    · exact absurd none held
    · rw [owned] at own
      exact Option.isNone_iff_eq_none.mp own
  · intro foreign
    have kept := enlisted.keepsPlaces foreign
    exact ⟨kept.others, kept.terminal⟩
  · intro asked cancels spare
    have peaceful : reached.store.Peaceful asked := by
      intro script member reaction held step there
      exact ⟨wired.guarded.obeys script member reaction held step there,
        spare script member reaction held step there⟩
    exact (wired.keepsListeners_perform cancels peaceful).rearranged

/-- The service takes its places three times and gives them up twice, between two others. -/
def repeatedStarts : List Operation :=
  [.enlist "crash log", .start, .change (.subscribe "window" none []) rfl, .start,
    .stopIntercepting, .intercept, .detach, .restart]

theorem registrations_exact_repeated :
    let parts := { ServiceParts.atHand [] [] with chain := none }
    let service := { Service.atHand [] [] with ownsChain := true }
    let reached := service.course repeatedStarts
    parts.build {} {} [] = .ok service ∧
      (∀ store, parts.store = some store → .service ∉ store.listeners.items) ∧
      (∀ chain, parts.chain = some chain → .service ∉ chain.interceptors.items) ∧
      reached.token = some 3 ∧ reached.chain.interceptors.items.count .service = 1 ∧
      reached.subscription = some 2 ∧
      reached.store.store.listeners.items.count .service = 1 ∧
      reached.panicHook.chains.length = 1 ∧
      reached.restart.1 = .ok 2 ∧ reached.restart.2.token ≠ none ∧
      (reached.perform .restart).chain.interceptors.others .service =
        [(0, .recorder "crash log")] ∧
      reached.store.Rearranged (fun _ => False) (reached.perform .restart).store := by
  intro parts service reached
  have built : parts.build {} {} [] = .ok service := rfl
  have unlistened := ServiceParts.unlistened_atHand [] []
  have unlisted (chain : HookChain ChainMember) (given : parts.chain = some chain) :
      .service ∉ chain.interceptors.items := by
    cases given
  have token : reached.token = some 3 := by decide +kernel
  have subscription : reached.subscription = some 2 := by decide +kernel
  have bridged : reached.bridge.isSome = true := by decide +kernel
  have restarted : reached.restart.1 = .ok 2 := by decide +kernel
  have others : reached.chain.interceptors.others .service = [(0, .recorder "crash log")] := by
    decide +kernel
  have idle : reached.store.scripts.all (·.reaction.all (·.isEmpty)) = true := by decide +kernel
  have spare : reached.store.Obeys (StoreStep.CancelsOnly fun _ => False) := by
    intro script member reaction held step there
    have empty := List.all_eq_true.mp idle script member
    rw [held, Option.all_some] at empty
    rw [List.isEmpty_iff.mp empty] at there
    cases there
  obtain ⟨listed, listens, bridges, _, _, restarts, keeps⟩ :=
    registrations_exact built unlistened unlisted repeatedStarts
  rw [show (service.course repeatedStarts).token = some 3 from token] at listed
  rw [show (service.course repeatedStarts).subscription = some 2 from subscription] at listens
  rw [show (service.course repeatedStarts).bridge.isSome = true from bridged] at bridges
  obtain ⟨places, rearranged⟩ := keeps .restart
  refine ⟨built, unlistened, unlisted, token, listed.1, subscription, listens.1, bridges,
    restarted, (restarts 2 restarted).1, ?_, rearranged _ trivial spare⟩
  rw [← others]
  exact (places id).1

end Service

end Telemetry
