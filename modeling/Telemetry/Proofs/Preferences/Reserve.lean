import Telemetry.Proofs.Preferences.Guard

/-! Listeners that keep to themselves: whatever they write when they are told of a change, they add
no listeners and remove none. A store with such listeners has the same ones after a session as
before it. -/

namespace Telemetry

def StoreStep.registers : StoreStep → Bool
  | .subscribe _ _ _ | .unsubscribe _ | .reopen => true
  | _ => false

theorem StoreStep.staysOpen_of_registerless {step : StoreStep}
    (registers : step.registers = false) : step.staysOpen = true := by
  cases step with
  | reopen => cases registers
  | subscribe name awaited reaction => cases registers
  | _ => rfl

namespace StoreSession

/-- No listener reacts by adding or removing listeners. -/
def Reserved (session : StoreSession) : Prop :=
  ∀ script ∈ session.scripts, ∀ reaction, script.reaction = some reaction →
    ∀ step ∈ reaction, step.registers = false

variable {session : StoreSession}

theorem listeners_perform (session : StoreSession) (next : StoreStep)
    (registers : next.registers = false) :
    (session.perform next).2.2.store.listeners = session.store.listeners ∧
      (session.perform next).2.2.numbers = session.numbers ∧
      (session.perform next).2.2.scripts = session.scripts := by
  have write (draws : Nat) (key : String) (value : Option Preference) (success : StoreResult) :
      ({ session with draws }.write key value success).2.2.store.listeners =
          session.store.listeners ∧
        ({ session with draws }.write key value success).2.2.numbers = session.numbers ∧
        ({ session with draws }.write key value success).2.2.scripts = session.scripts := by
    rcases write_cases { session with draws } key value success with
      ⟨result, disk, written⟩ | ⟨disk, written⟩
    · rw [written]
      exact ⟨rfl, rfl, rfl⟩
    · rw [written]
      exact ⟨rfl, rfl, rfl⟩
  cases next with
  | put key value => exact write session.draws key value .written
  | installationId =>
      simp only [perform]
      split
      · exact ⟨rfl, rfl, rfl⟩
      · exact ⟨rfl, rfl, rfl⟩
      · exact write _ _ _ _
  | subscribe name awaited reaction => cases registers
  | unsubscribe index => cases registers
  | reopen => cases registers
  | place path entry =>
      simp only [perform]
      split
      · exact ⟨rfl, rfl, rfl⟩
      · exact ⟨rfl, rfl, rfl⟩
      · split
        · exact ⟨rfl, rfl, rfl⟩
        · exact ⟨rfl, rfl, rfl⟩
  | discard path =>
      simp only [perform]
      split
      · exact ⟨rfl, rfl, rfl⟩
      · exact ⟨rfl, rfl, rfl⟩
  | _ => exact ⟨rfl, rfl, rfl⟩

theorem isConduct_registerless : StoreStep.IsConduct (·.registers = false) := by
  refine ⟨fun _ => StoreStep.staysOpen_of_registerless, ?_⟩
  intro name awaited reaction registers
  cases registers

theorem listeners_step (session : StoreSession) {frame : StoreFrame}
    (registerless : Fits (·.registers = false) frame) :
    (session.step frame).2.store.listeners = session.store.listeners := by
  rcases session.step_cases frame with
    ⟨name, next, rest, rfl, taken⟩ | ⟨notes, scripts, deadlocked, result, kept⟩
  · rw [taken]
    exact (session.listeners_perform next (registerless next List.mem_cons_self)).1
  · rw [kept]

theorem Reserved.obtainId (reserved : session.Reserved) :
    session.obtainId.2.store.listeners = session.store.listeners :=
  (Obeys.obtainId reserved isConduct_registerless (·.store.listeners = session.store.listeners)
    (fun between _ registerless same => (between.listeners_step registerless).trans same)
    (session.listeners_perform .installationId rfl).1).1

end StoreSession

end Telemetry
