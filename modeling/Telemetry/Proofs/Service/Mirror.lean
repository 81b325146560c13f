import Mathlib.Data.List.Induction
import Mathlib.Data.List.Infix
import Mathlib.Data.List.Nodup
import Telemetry.Proofs.Service.Choice

/-! While the stored choice can be read and nobody else touches the switches, the service and its
client mirror it after every operation, and the service listens exactly once. The one way to have a
client without listening is a start that cannot read the choice. -/

namespace Telemetry

namespace StoreSession

variable {session : StoreSession}

theorem Guarded.count {number : Nat} (guarded : session.Guarded (some number)) :
    session.store.listeners.items.count .service = 1 :=
  Registry.Enrolled.count guarded.own

end StoreSession

theorem ServiceParts.unlistened_openStore {parts : ServiceParts} {environment : Environment}
    {disk : Disk} {store : Store Listener} (opened : parts.openStore environment disk = .ok store)
    (unlistened : ∀ given, parts.store = some given → .service ∉ given.listeners.items) :
    .service ∉ store.listeners.items := by
  unfold openStore at opened
  split at opened
  · rename_i given same
    exact Except.ok.inj opened ▸ unlistened given same
  · simp only [bind, Except.bind] at opened
    split at opened
    · cases opened
    · rename_i paths _
      cases found : (Store.openFile disk paths.preferences : Except _ (Store Listener)) with
      | error fault =>
          rw [found] at opened
          cases opened
      | ok fresh =>
          rw [found] at opened
          rw [← Except.ok.inj opened, Registry.items,
            List.length_eq_zero_iff.mp (Store.size_openFile found)]
          exact List.not_mem_nil

namespace Service

variable {service : Service}

/-- A service that has a client listens. -/
def Attached (service : Service) : Prop :=
  service.current ≠ none → service.subscription ≠ none

theorem Attached.routine {after : Service} (attached : service.Attached)
    (routine : service.Routine after) : after.Attached := by
  unfold Attached
  rw [routine.current, routine.subscription]
  exact attached

theorem listen_listens : service.listen.subscription ≠ none := by
  unfold listen
  split
  · rename_i number held
    rw [held]
    exact Option.some_ne_none number
  · exact Option.some_ne_none _

theorem startUsing_attached (service : Service) (index : Nat) :
    ((∃ fault, (service.startUsing index).2.storedChoice = .error fault) ∨
        (service.startUsing index).2.subscription ≠ none) ∧
      (service.subscription ≠ none → (service.startUsing index).2.subscription ≠ none) := by
  obtain ⟨token, chain, bridge, panicHook, ⟨fault, unread, result⟩ | ⟨enabled, read, result⟩⟩ :=
    service.startUsing_cases index
  · rw [result]
    exact ⟨.inl ⟨fault, unread⟩, id⟩
  · rw [result]
    exact ⟨.inr listen_listens, fun _ => listen_listens⟩

/-- A start leaves a client without a listener only when the choice cannot be read, and never takes
a listener away. -/
theorem start_attached (service : Service) :
    ((∃ fault, service.start.2.storedChoice = .error fault) ∨ service.start.2.Attached) ∧
      (service.subscription ≠ none → service.start.2.subscription ≠ none) := by
  obtain ⟨supply, store, clients, _, _, ⟨idle, result⟩ | ⟨index, _, _, result⟩⟩ :=
    service.start_cases
  · rw [result]
    exact ⟨.inr fun held => absurd idle held, id⟩
  · rw [result]
    obtain ⟨ending, keeps⟩ :=
      startUsing_attached { service with supply, store, clients } index
    exact ⟨ending.imp_right fun listens _ => listens, keeps⟩

theorem restart_attached (service : Service) :
    ((∃ fault, service.restart.2.storedChoice = .error fault) ∨ service.restart.2.Attached) ∧
      (service.subscription ≠ none → service.restart.2.subscription ≠ none) := by
  obtain ⟨clients, chain, _, result⟩ := service.restart_eq
  rw [result]
  exact start_attached _

theorem followChoice_listens (kept : service.released = false)
    (listens : service.subscription ≠ none) : service.followChoice.subscription ≠ none := by
  rcases service.followChoice_cases kept with
    ⟨fault, _, result⟩ | ⟨enabled, optedIn, clients, events, _, _, result | result⟩
  · rw [result]
    exact listens
  · rw [result]
    exact (restart_attached _).2 listens
  · rw [result]
    exact (restart_attached _).2 listens

/-- A service is told only while it listens, so no agenda leaves a client without a listener. -/
theorem Wired.attached_run (wired : service.Wired) {agenda : List StoreFrame}
    (stays : ∀ frame ∈ agenda, StoreSession.StaysOpen frame) (attached : service.Attached)
    (listening : ∀ key, .tell .service key ∈ agenda → service.subscription ≠ none) :
    (service.run agenda).Attached := by
  fun_induction Service.run service agenda with
  | case1 service => exact attached
  | case2 service frame rest ih =>
      obtain ⟨kept, news⟩ := wired.step (stays frame List.mem_cons_self)
      have later (next : StoreFrame) (member : next ∈ (service.step frame).1 ++ rest) :
          StoreSession.StaysOpen next :=
        (List.mem_append.mp member).elim (news next)
          fun old => stays next (List.mem_cons_of_mem frame old)
      -- Only a telling touches the client, and it finds the service listening.
      rcases service.step_cases frame with
        ⟨rfl, followed⟩ | ⟨key, rfl, _, unmoved⟩ | ⟨_, passed⟩
      · have listens := listening optInKey List.mem_cons_self
        have still := followChoice_listens wired.kept listens
        rw [followed] at ih kept later ⊢
        exact ih kept later (fun _ => still) fun _ _ => still
      · have listens := listening key List.mem_cons_self
        rw [unmoved] at ih kept later ⊢
        exact ih kept later attached fun _ _ => listens
      · rw [passed] at ih kept later ⊢
        refine ih kept later attached ?_
        intro key member
        rcases List.mem_append.mp member with told | old
        · rcases service.store.told_step (stays frame List.mem_cons_self) with
            ⟨nobody, _⟩ | ⟨changed, everybody, _⟩
          · exact absurd told (nobody .service key)
          · exact wired.listens_iff.mpr ((everybody .service key).mp told).1
        · exact listening key (List.mem_cons_of_mem frame old)

theorem Wired.attached_perform (wired : service.Wired) (attached : service.Attached)
    (operation : Operation) :
    (∃ fault, (service.perform operation).storedChoice = .error fault) ∨
      (service.perform operation).Attached := by
  cases operation with
  | start => exact service.start_attached.1
  | restart => exact service.restart_attached.1
  | shutdown =>
      obtain ⟨clients, result, _⟩ := service.shutdown_eq
      simp only [Service.perform, result]
      exact .inr fun held => absurd wired.detach.2 held
  | detach => exact .inr fun held => absurd wired.detach.2 held
  | setOptIn enabled =>
      obtain ⟨optedIn, clients, result, _⟩ := service.setOptIn_eq enabled
      simp only [Service.perform, result]
      exact .inr attached
  | change step stays =>
      refine .inr (wired.attached_run (StoreSession.staysOpen_take stays) attached ?_)
      intro key member
      cases List.mem_singleton.mp member
  | onClient index operation =>
      cases operation with
      | setEnabled enabled => exact .inr attached
      | _ => exact .inr (attached.routine (service.routine_perform trivial))
  | _ => exact .inr (attached.routine (service.routine_perform trivial))

theorem wired_build {parts : ServiceParts} {environment : Environment} {disk : Disk}
    {directory : Place} (built : parts.build environment disk directory = .ok service)
    (unlistened : ∀ store, parts.store = some store → .service ∉ store.listeners.items) :
    service.Wired ∧ service.current = none := by
  obtain ⟨supply, store, opened, rfl⟩ := ServiceParts.build_eq built
  have nobody := ServiceParts.unlistened_openStore opened unlistened
  refine ⟨⟨rfl, ?_, ?_, List.forall_mem_nil _, List.forall_mem_nil _⟩, rfl⟩
  · intro index held
    cases held
  · intro number
    simp only [reduceCtorEq, iff_false]
    intro member
    exact nobody (List.mem_map.mpr ⟨_, member, rfl⟩)

end Service

/-- The application leaves the choice to the store and the switches of clients to the service. -/
def Operation.HandsOff : Operation → Prop
  | .setOptIn _ | .onClient _ (.setEnabled _) => False
  | _ => True

theorem Operation.HandsOff.heeds {operation : Operation} (handsOff : operation.HandsOff)
    (agrees : Bool → Bool → Bool → Prop) : operation.Heeds agrees := by
  cases operation with
  | setOptIn enabled => exact handsOff.elim
  | onClient index operation => cases operation <;> exact handsOff
  | _ => trivial

namespace Service

variable {service : Service}

/-- The stored choice is no text at the end of any operation. -/
def Legible (service : Service) (operations : List Operation) : Prop :=
  ∀ past, past <+: operations →
    ∀ text, (service.course past).store.store.get? optInKey ≠ some (.text text)

theorem storedChoice_legible
    (legible : ∀ text, service.store.store.get? optInKey ≠ some (.text text)) :
    ∃ choice, service.storedChoice = .ok choice := by
  unfold storedChoice Store.getBoolean
  split
  · exact ⟨false, rfl⟩
  · rename_i value _
    exact ⟨value, rfl⟩
  · rename_i text found
    exact absurd found (legible text)

theorem Wired.attached_course {agrees : Bool → Bool → Bool → Prop} (wired : service.Wired)
    (own : ∀ choice, agrees choice choice choice) {operations : List Operation}
    (heed : ∀ operation ∈ operations, operation.Heeds agrees) (inStep : service.InStep agrees)
    (attached : service.Attached) (legible : service.Legible operations) :
    (service.course operations).Attached := by
  induction operations using List.reverseRecOn with
  | nil => exact attached
  | append_singleton past next ih =>
      have earlier : past <+: past ++ [next] := List.prefix_append past [next]
      have before := ih (fun operation member => heed operation (earlier.subset member))
        fun first shorter => legible first (shorter.trans earlier)
      obtain ⟨reached, _⟩ := wired.course own
        (fun operation member => heed operation (earlier.subset member)) inStep
      obtain ⟨choice, read⟩ := storedChoice_legible (legible _ (List.prefix_refl _))
      rw [course_snoc] at read ⊢
      rcases reached.attached_perform before next with ⟨fault, unread⟩ | kept
      · cases unread.symm.trans read
      · exact kept

/-- After every operation the client that the service has, the service, and the store agree, and the
service is one listener of the store. The store that a service is built with does not know it yet;
everything else that may fail on the way is part of the operations. -/
theorem choice_mirrored {parts : ServiceParts} {environment : Environment} {disk : Disk}
    {directory : Place} (built : parts.build environment disk directory = .ok service)
    (unlistened : ∀ store, parts.store = some store → .service ∉ store.listeners.items)
    {operations : List Operation} (handsOff : ∀ operation ∈ operations, operation.HandsOff)
    (legible : service.Legible operations) :
    let reached := service.course operations
    ∀ index, reached.current = some index →
      ∃ client stored, Clients.client? reached.clients index = some client ∧
        reached.storedChoice = .ok stored ∧ client.enabled = stored ∧ reached.optedIn = stored ∧
        reached.store.store.listeners.items.count .service = 1 := by
  intro reached index held
  obtain ⟨wired, idle⟩ := wired_build built unlistened
  have heed (operation : Operation) (member : operation ∈ operations) :
      operation.Heeds fun enabled optedIn choice => enabled = choice ∧ optedIn = choice :=
    (handsOff operation member).heeds _
  obtain ⟨kept, inStep⟩ := wired.course (fun _ => ⟨rfl, rfl⟩) heed (.idle idle)
  have attached := wired.attached_course (fun _ => ⟨rfl, rfl⟩) heed (.idle idle)
    (fun has => absurd idle has) legible
  have listens := attached (by rw [held]; exact Option.some_ne_none index)
  obtain ⟨stored, read⟩ := storedChoice_legible (legible operations (List.prefix_refl _))
  obtain ⟨client, found, enabled, optedIn⟩ := inStep index stored held listens read
  obtain ⟨number, subscribed⟩ := Option.ne_none_iff_exists'.mp listens
  refine ⟨client, stored, found, read, enabled, optedIn, ?_⟩
  have guarded := kept.guarded
  rw [subscribed] at guarded
  exact guarded.count

/-- The user agrees after the service has been started, and another listener writes meanwhile. -/
def laterConsent : List Operation :=
  [.start, .change (.subscribe "window" (some optInKey) [.put "seen" (some (.boolean true))]) rfl,
    .change (.put optInKey (some (.boolean true))) rfl]

theorem legible_laterConsent : (Service.atHand [] []).Legible laterConsent := by
  have everywhere : ∀ past ∈ laterConsent.inits,
      ((Service.atHand [] []).course past).store.store.get? optInKey ∈
        [none, some (.boolean true)] := by
    decide +kernel
  intro past earlier text found
  have here := everywhere past ((List.mem_inits past laterConsent).mpr earlier)
  rw [found] at here
  simp at here

theorem choice_mirrored_laterConsent :
    let reached := (Service.atHand [] []).course laterConsent
    (ServiceParts.atHand [] []).build {} {} [] = .ok (Service.atHand [] []) ∧
      (∀ store, (ServiceParts.atHand [] []).store = some store →
        .service ∉ store.listeners.items) ∧
      (∀ operation ∈ laterConsent, operation.HandsOff) ∧
      (Service.atHand [] []).Legible laterConsent ∧ reached.current = some 1 ∧
      ∃ client, Clients.client? reached.clients 1 = some client ∧ client.enabled = true ∧
        reached.optedIn = true ∧ reached.store.store.listeners.items.count .service = 1 := by
  have unlistened := ServiceParts.unlistened_atHand [] []
  have handsOff : ∀ operation ∈ laterConsent, operation.HandsOff := by
    simp only [laterConsent, List.forall_mem_cons, Operation.HandsOff]
    exact ⟨trivial, trivial, trivial, List.forall_mem_nil _⟩
  have current : ((Service.atHand [] []).course laterConsent).current = some 1 := by decide +kernel
  have agreed : ((Service.atHand [] []).course laterConsent).store.store.get? optInKey =
      some (.boolean true) := by
    decide +kernel
  have built := ServiceParts.build_atHand [] []
  refine ⟨built, unlistened, handsOff, legible_laterConsent, current, ?_⟩
  obtain ⟨client, stored, found, read, enabled, optedIn, once⟩ :=
    choice_mirrored built unlistened handsOff legible_laterConsent 1 current
  unfold storedChoice Store.getBoolean at read
  rw [agreed] at read
  cases read
  exact ⟨client, found, enabled, optedIn, once⟩

end Service

end Telemetry
