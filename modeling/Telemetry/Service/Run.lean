import Telemetry.Service.Lifecycle
/-!
Changes of preferences with all that follows from them.

A change that the service listens for makes it start again, which may tell the listeners of a new
installation id.  Only the service follows the user's choice, and it never writes it, so these
changes come to an end.
-/

namespace Telemetry

namespace StoreSession

theorem bounds_run (session : StoreSession) (agenda : List StoreFrame) :
    (session.run agenda).pendingSteps ≤ total StoreFrame.steps agenda + session.pendingSteps ∧
      (session.run agenda).reach ≤ total StoreFrame.steps agenda + session.reach := by
  fun_induction session.run agenda with
  | case1 session => simp
  | case2 session frame rest ih =>
      obtain ⟨steps, reaches, _⟩ := step_descends session frame
      simp only [total_append, total_cons] at ih ⊢
      omega

theorem bounds_obtainId (session : StoreSession) :
    session.obtainId.2.pendingSteps ≤ session.pendingSteps ∧
      session.obtainId.2.reach ≤ session.reach := by
  have asked : total StoreFrame.steps (session.perform .installationId).1 = 0 ∧
      (session.perform .installationId).2.2.pendingSteps ≤ session.pendingSteps ∧
      (session.perform .installationId).2.2.reach ≤ session.reach := by
    simp only [perform]
    split
    · exact ⟨rfl, Nat.le_refl _, Nat.le_refl _⟩
    · exact ⟨rfl, Nat.le_refl _, Nat.le_refl _⟩
    · obtain ⟨steps, _, pending, reach⟩ :=
        write_tells { session with draws := session.draws + 1 } installationKey
          (some (.text (drawnIdentifier session.draws)))
          (.identified (drawnIdentifier session.draws))
      exact ⟨steps, Nat.le_of_eq pending, Nat.le_of_eq reach⟩
  have run := bounds_run (session.perform .installationId).2.2
    (session.perform .installationId).1
  have after : session.obtainId.2 = (session.perform .installationId).2.2.run
      (session.perform .installationId).1 := by
    unfold obtainId
    dsimp only
    split <;> rfl
  rw [after]
  omega

end StoreSession

namespace Service

/-- The listeners that there may ever be; the service may become one of them. -/
def reach (service : Service) : Nat :=
  service.store.reach + if service.subscription.isNone then 1 else 0

/-- No more steps are to come, and there will be no more listeners. -/
structure AddsNothing (before after : Service) : Prop where
  steps : after.store.pendingSteps ≤ before.store.pendingSteps
  reach : after.reach ≤ before.reach

namespace AddsNothing

variable {service before between after : Service}

theorem of_store (store : after.store = before.store)
    (subscription : after.subscription = before.subscription) : before.AddsNothing after := by
  refine ⟨Nat.le_of_eq (by rw [store]), Nat.le_of_eq ?_⟩
  unfold Service.reach
  rw [store, subscription]

theorem trans (first : before.AddsNothing between) (second : between.AddsNothing after) :
    before.AddsNothing after :=
  ⟨Nat.le_trans second.steps first.steps, Nat.le_trans second.reach first.reach⟩

theorem log (events : List LogEvent) : service.AddsNothing (service.log events) :=
  of_store rfl rfl

theorem intercept : service.AddsNothing service.intercept := by
  unfold Service.intercept
  split <;> exact of_store rfl rfl

theorem stopIntercepting : service.AddsNothing service.stopIntercepting := by
  unfold Service.stopIntercepting
  split <;> exact of_store rfl rfl

theorem bridgePanics : service.AddsNothing service.bridgePanics := by
  unfold Service.bridgePanics
  split <;> exact of_store rfl rfl

theorem dropClient : service.AddsNothing service.dropClient := by
  unfold Service.dropClient
  split <;> exact of_store rfl rfl

theorem setOptIn (enabled : Bool) : service.AddsNothing (service.setOptIn enabled).2 := by
  unfold Service.setOptIn
  split <;> exact of_store rfl rfl

theorem applyChoice (index : Nat) (enabled : Bool) :
    service.AddsNothing (service.applyChoice index enabled) :=
  of_store rfl rfl

theorem listen : service.AddsNothing service.listen := by
  unfold Service.listen
  split
  · exact of_store rfl rfl
  · rename_i none
    refine ⟨Nat.le_refl _, ?_⟩
    simp only [Service.reach, StoreSession.reach, StoreSession.pendingSteps, Store.subscribe,
      Registry.size, Registry.add, List.length_append, List.length_singleton, none,
      Option.isNone_none, Option.isNone_some, if_true, if_false, Bool.false_eq_true]
    omega

theorem buildFor (settings : Settings) : service.AddsNothing (service.buildFor settings).2 := by
  obtain ⟨steps, reach⟩ := service.store.bounds_obtainId
  unfold Service.buildFor
  dsimp only
  split
  · exact ⟨steps, Nat.add_le_add_right reach _⟩
  · exact ⟨steps, Nat.add_le_add_right reach _⟩

theorem startUsing (index : Nat) : service.AddsNothing (service.startUsing index).2 := by
  have chosen : service.AddsNothing { service with current := some index } := of_store rfl rfl
  have ready := (chosen.trans intercept).trans bridgePanics
  unfold Service.startUsing
  dsimp only
  split
  · exact ready
  · rename_i enabled _
    exact (ready.trans (applyChoice index enabled)).trans listen

theorem buildClient : service.AddsNothing service.buildClient.2 := by
  have logged : service.AddsNothing ({ service with supply := service.supply.afterLoad }.log
      (service.supply.load service.store.disk).2) := of_store rfl rfl
  unfold Service.buildClient
  dsimp only
  split
  · exact logged
  · exact logged.trans (buildFor _)

theorem start : service.AddsNothing service.start.2 := by
  unfold Service.start
  split
  · exact startUsing _
  · dsimp only
    split
    · exact buildClient
    · exact buildClient.trans (startUsing _)

theorem restart : service.AddsNothing service.restart.2 :=
  .trans dropClient (.trans stopIntercepting start)

theorem followChoice : service.AddsNothing service.followChoice := by
  unfold Service.followChoice
  split
  · exact of_store rfl rfl
  · split
    · exact log _
    · rename_i enabled _
      have applied : service.AddsNothing (service.setOptIn enabled).2 := setOptIn enabled
      dsimp only
      split
      · split
        · exact applied.trans (.trans (log _) (.trans restart (log _)))
        · exact applied.trans (.trans restart (log _))
      · split
        · exact applied.trans (.trans (log _) restart)
        · exact applied.trans restart

end AddsNothing

def step (service : Service) : StoreFrame → List StoreFrame × Service
  | .tell .service key => ([], if key = optInKey then service.followChoice else service)
  | frame =>
      let stepped := service.store.step frame
      (stepped.1, { service with store := stepped.2 })

def weight (service : Service) (agenda : List StoreFrame) : Nat :=
  agendaWeight (total StoreFrame.steps agenda + service.store.pendingSteps)
    (total StoreFrame.cost agenda) (total StoreFrame.steps agenda + service.reach)

theorem step_descends (service : Service) (frame : StoreFrame) :
    total StoreFrame.steps (service.step frame).1 + (service.step frame).2.store.pendingSteps ≤
        frame.steps + service.store.pendingSteps ∧
      total StoreFrame.steps (service.step frame).1 + (service.step frame).2.reach ≤
        frame.steps + service.reach ∧
      (total StoreFrame.steps (service.step frame).1 + (service.step frame).2.store.pendingSteps <
          frame.steps + service.store.pendingSteps ∧
          total StoreFrame.cost (service.step frame).1 ≤
            2 * service.store.store.listeners.size + 2 ∨
        total StoreFrame.cost (service.step frame).1 < frame.cost) := by
  unfold step
  split
  · rename_i key
    obtain ⟨steps, reaches⟩ : service.AddsNothing
        (if key = optInKey then service.followChoice else service) := by
      split
      · exact .followChoice
      · exact .of_store rfl rfl
    simp only [total_nil, StoreFrame.steps, StoreFrame.cost]
    omega
  · obtain ⟨steps, reaches, pays⟩ := StoreSession.step_descends service.store frame
    simp only [reach]
    omega

theorem weight_descends (service : Service) (frame : StoreFrame) (rest : List StoreFrame) :
    (service.step frame).2.weight ((service.step frame).1 ++ rest) <
      service.weight (frame :: rest) := by
  obtain ⟨steps, reaches, pays⟩ := step_descends service frame
  have size : service.store.store.listeners.size ≤ service.reach :=
    Nat.le_trans (Nat.le_add_right _ _) (Nat.le_add_right _ _)
  simp only [weight, total_append, total_cons]
  apply agendaWeight_falls
  · omega
  · omega
  · omega

def run (service : Service) (agenda : List StoreFrame) : Service :=
  match agenda with
  | [] => service
  | frame :: rest => run (service.step frame).2 ((service.step frame).1 ++ rest)
termination_by service.weight agenda
decreasing_by exact weight_descends service frame rest

def changePreferences (service : Service) (next : StoreStep) : Service :=
  service.run [.take none [next]]

end Service

end Telemetry
