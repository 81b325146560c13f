import Telemetry.Proofs.Service.Choice
import Telemetry.Proofs.Service.FailedStart

/-! When a service bridges panics: from a start that succeeds on until it is shut down, whatever
happens meanwhile. After that it does not before somebody tries to start it again. -/

namespace Telemetry

/-- What may set up a bridge; a change of the preferences may restart a service that listens. -/
def Operation.MayBridge : Operation → Prop
  | .start | .restart | .change _ _ => True
  | _ => False

def Operation.Unbridges : Operation → Prop
  | .shutdown | .detach => True
  | _ => False

namespace Service

variable {service : Service}

theorem bridge_startUsing (index : Nat) : (service.startUsing index).2.bridge =
    ({ service with current := some index } : Service).intercept.bridgePanics.bridge := by
  unfold startUsing
  dsimp only
  split
  · rfl
  · rename_i enabled _
    obtain ⟨subscription, listeners, listening⟩ := listen_eq
      (({ service with current := some index } : Service).intercept.bridgePanics.applyChoice
        index enabled)
    rw [listening]
    rfl

theorem bridged_bridgePanics (kept : service.bridge ≠ none) :
    service.bridgePanics.bridge ≠ none := by
  unfold bridgePanics
  rw [if_neg]
  · exact kept
  · rw [Bool.and_eq_true, Option.isNone_iff_eq_none]
    exact fun missing => kept missing.2

/-- A bridge stands once a client is in use, whether or not the choice can be read. -/
theorem startUsing_bridges (index : Nat)
    (due : service.ownsChain = true ∨ service.bridge ≠ none) :
    (service.startUsing index).2.bridge ≠ none := by
  obtain ⟨token, chain, intercepted⟩ :=
    Service.intercept_eq { service with current := some index }
  rw [bridge_startUsing, intercepted]
  rcases due with owns | kept
  · exact bridgePanics_bridges _ owns
  · exact bridged_bridgePanics kept

theorem start_bridges {client : Nat} (owns : service.ownsChain = true)
    (started : service.start.1 = .ok client) : service.start.2.bridge ≠ none := by
  unfold start at started ⊢
  cases held : service.current with
  | some index => exact startUsing_bridges index (.inl owns)
  | none =>
      obtain ⟨supply, store, clients, built, _⟩ := service.buildClient_cases
      rw [held] at started
      dsimp only at started ⊢
      split at started
      · cases started
      · rename_i index _
        apply startUsing_bridges index
        rw [built]
        exact .inl owns

theorem bridged_start (kept : service.bridge ≠ none) : service.start.2.bridge ≠ none := by
  obtain ⟨supply, store, clients, _, _, ⟨_, same⟩ | ⟨index, _, _, same⟩⟩ := service.start_cases
  · rw [same]
    exact kept
  · rw [same]
    exact startUsing_bridges index (.inr kept)

theorem bridged_restart (kept : service.bridge ≠ none) : service.restart.2.bridge ≠ none := by
  obtain ⟨clients, chain, _, same⟩ := service.restart_eq
  rw [same]
  exact bridged_start kept

theorem bridged_followChoice (kept : service.bridge ≠ none) :
    service.followChoice.bridge ≠ none := by
  cases alone : service.released with
  | true =>
      unfold followChoice
      rw [if_pos alone]
      exact kept
  | false =>
      rcases service.followChoice_cases alone with
        ⟨fault, _, same⟩ | ⟨enabled, optedIn, clients, events, _, _, same | same⟩
      · rw [same]
        exact kept
      · rw [same]
        exact bridged_restart kept
      · rw [same]
        exact bridged_restart kept

theorem bridged_run (kept : service.bridge ≠ none) (agenda : List StoreFrame) :
    (service.run agenda).bridge ≠ none := by
  fun_induction Service.run service agenda with
  | case1 service => exact kept
  | case2 service frame rest ih =>
      apply ih
      rcases service.step_cases frame with ⟨_, same⟩ | ⟨_, _, _, same⟩ | ⟨_, same⟩
      · rw [same]
        exact bridged_followChoice kept
      · rw [same]
        exact kept
      · rw [same]
        exact kept

theorem bridge_send (hit : Hit) : (service.send hit).2.bridge = service.bridge := by
  unfold send
  split
  · rfl
  · rfl

theorem bridge_dispatch (exception : UncaughtException) :
    (service.dispatch exception).bridge = service.bridge :=
  dispatch_preserves (fun after => after.bridge = service.bridge)
    (fun _ hit same => (bridge_send hit).trans same) (fun _ _ same => same) exception service rfl

theorem bridge_detach : service.detach.bridge = none := by
  obtain ⟨chain, listeners, panicHook, detached⟩ := service.detach_eq
  rw [detached]

theorem bridge_shutdown : service.shutdown.2.bridge = none := by
  obtain ⟨clients, stopped, _⟩ := service.shutdown_eq
  rw [stopped]
  exact bridge_detach

theorem bridge_perform {operation : Operation} (noneUp : ¬operation.MayBridge)
    (noneDown : ¬operation.Unbridges) :
    (service.perform operation).bridge = service.bridge := by
  cases operation with
  | start => exact absurd trivial noneUp
  | restart => exact absurd trivial noneUp
  | change step stays => exact absurd trivial noneUp
  | shutdown => exact absurd trivial noneDown
  | detach => exact absurd trivial noneDown
  | setOptIn enabled =>
      obtain ⟨optedIn, clients, same, _⟩ := service.setOptIn_eq enabled
      simp only [perform, same]
  | setDryRun dryRun =>
      simp only [perform, setDryRun]
      split
      · rfl
      · rfl
  | intercept =>
      obtain ⟨token, chain, same⟩ := service.intercept_eq
      simp only [perform, same]
  | stopIntercepting =>
      obtain ⟨chain, same⟩ := service.stopIntercepting_eq
      simp only [perform, same]
  | report report =>
      obtain ⟨hit, same⟩ := service.report_sends report
      simp only [perform, same]
      exact bridge_send hit
  | flush =>
      simp only [perform, flush]
      split
      · rfl
      · rfl
  | dispatch exception => exact bridge_dispatch exception
  | panic exception =>
      exact panic_preserves (fun after => after.bridge = service.bridge)
        (fun _ hit same => (bridge_send hit).trans same) (fun _ _ same => same)
        exception service rfl
  | forget index =>
      simp only [perform]
      split
      · rfl
      · rfl
  | dismiss number =>
      simp only [perform]
      split
      · rfl
      · rfl
  | _ => rfl

theorem bridged_perform {operation : Operation} (noneDown : ¬operation.Unbridges)
    (kept : service.bridge ≠ none) : (service.perform operation).bridge ≠ none := by
  by_cases up : operation.MayBridge
  · cases operation with
    | start => exact bridged_start kept
    | restart => exact bridged_restart kept
    | change step stays => exact bridged_run kept _
    | _ => exact up.elim
  · rw [bridge_perform up noneDown]
    exact kept

theorem unbridged_perform {operation : Operation} (noneUp : ¬operation.MayBridge)
    (bare : service.bridge = none) : (service.perform operation).bridge = none := by
  by_cases down : operation.Unbridges
  · cases operation with
    | shutdown => exact bridge_shutdown
    | detach => exact bridge_detach
    | _ => exact down.elim
  · rw [bridge_perform noneUp down]
    exact bare

end Service

end Telemetry
