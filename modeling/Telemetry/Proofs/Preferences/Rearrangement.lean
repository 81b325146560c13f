import Telemetry.Proofs.Preferences.Reserve

/-! Who comes and who goes among the listeners of a store. Only a step that says so removes a
listener, and it can only remove one that was added by a step; all that stay keep their order. -/

namespace Telemetry

mutual

/-- Of all subscriptions a step and its reaction cancel only those with the given indices. -/
def StoreStep.CancelsOnly (asked : Nat → Prop) : StoreStep → Prop
  | .unsubscribe index => asked index
  | .subscribe _ _ reaction => StoreStep.CancelOnly asked reaction
  | _ => True

def StoreStep.CancelOnly (asked : Nat → Prop) : List StoreStep → Prop
  | [] => True
  | step :: rest => step.CancelsOnly asked ∧ StoreStep.CancelOnly asked rest

end

variable {asked : Nat → Prop}

theorem StoreStep.cancelOnly_iff (steps : List StoreStep) :
    StoreStep.CancelOnly asked steps ↔ ∀ step ∈ steps, step.CancelsOnly asked := by
  induction steps with
  | nil => simp [StoreStep.CancelOnly]
  | cons step rest ih => simp only [StoreStep.CancelOnly, ih, List.forall_mem_cons]

def StoreStep.Spares (asked : Nat → Prop) (step : StoreStep) : Prop :=
  step.staysOpen = true ∧ step.CancelsOnly asked

namespace StoreSession

/-- Among the other listeners only those have gone whose subscriptions were to be cancelled. -/
structure Rearranged (asked : Nat → Prop) (before after : StoreSession) : Prop where
  numbers : before.numbers <+: after.numbers
  listeners : ∃ gone,
    Registry.Rearranged .service gone before.store.listeners after.store.listeners ∧
      ∀ number ∈ gone, ∃ index, asked index ∧ after.numbers[index]? = some number

variable {session before between after : StoreSession}

theorem Rearranged.of_others (numbers : after.numbers = before.numbers)
    (next : before.store.listeners.next ≤ after.store.listeners.next)
    (same : after.store.listeners.others .service = before.store.listeners.others .service) :
    before.Rearranged asked after :=
  ⟨numbers ▸ List.prefix_refl _, [], .of_others next same, List.forall_mem_nil _⟩

theorem Rearranged.aside (numbers : after.numbers = before.numbers)
    (listeners : after.store.listeners = before.store.listeners) : before.Rearranged asked after :=
  .of_others numbers (Nat.le_of_eq (by rw [listeners])) (by rw [listeners])

theorem Rearranged.refl (session : StoreSession) : session.Rearranged asked session :=
  .aside rfl rfl

theorem Rearranged.trans (first : before.Rearranged asked between)
    (second : between.Rearranged asked after) : before.Rearranged asked after := by
  obtain ⟨gone, here, known⟩ := first.listeners
  obtain ⟨left, there, other⟩ := second.listeners
  refine ⟨first.numbers.trans second.numbers, gone ++ left, here.trans there, ?_⟩
  intro number member
  rcases List.mem_append.mp member with early | late
  · obtain ⟨index, wanted, found⟩ := known number early
    refine ⟨index, wanted, ?_⟩
    obtain ⟨inside, _⟩ := List.getElem?_eq_some_iff.mp found
    obtain ⟨later, grown⟩ := second.numbers
    rw [← grown, List.getElem?_append_left inside, found]
  · exact other number late

theorem rearranged_perform (session : StoreSession) {next : StoreStep}
    (spares : next.Spares asked) : session.Rearranged asked (session.perform next).2.2 := by
  cases registers : next.registers with
  | false =>
      obtain ⟨listeners, numbers, -⟩ := session.listeners_perform next registers
      exact .aside numbers listeners
  | true =>
      cases next with
      | subscribe name awaited reaction =>
          exact ⟨List.prefix_append _ _, [], Registry.rearranged_add Listener.noConfusion,
            List.forall_mem_nil _⟩
      | unsubscribe index =>
          simp only [perform]
          split
          · exact .refl session
          · rename_i number found
            refine ⟨List.prefix_refl _, [number], Registry.rearranged_remove number, ?_⟩
            intro other member
            rw [List.mem_singleton.mp member]
            exact ⟨index, spares.2, found⟩
      | reopen => cases spares.1
      | _ => cases registers

theorem rearranged_step (session : StoreSession) {frame : StoreFrame}
    (spares : Fits (StoreStep.Spares asked) frame) :
    session.Rearranged asked (session.step frame).2 := by
  rcases session.step_cases frame with
    ⟨name, next, rest, rfl, taken⟩ | ⟨notes, scripts, deadlocked, result, kept⟩
  · rw [taken]
    exact session.rearranged_perform (spares next List.mem_cons_self)
  · rw [kept]
    exact .aside rfl rfl

theorem isConduct_spares : StoreStep.IsConduct (StoreStep.Spares asked) := by
  refine ⟨fun _ => And.left, ?_⟩
  intro name awaited reaction spares step member
  obtain ⟨stays, cancels⟩ := spares
  exact ⟨(StoreStep.stayOpen_iff reaction).mp stays step member,
    (StoreStep.cancelOnly_iff reaction).mp cancels step member⟩

def Peaceful (asked : Nat → Prop) (session : StoreSession) : Prop :=
  session.Obeys (StoreStep.Spares asked)

theorem Peaceful.step (peaceful : session.Peaceful asked) {frame : StoreFrame}
    (spares : Fits (StoreStep.Spares asked) frame) :
    (session.step frame).2.Peaceful asked ∧
      ∀ next ∈ (session.step frame).1, Fits (StoreStep.Spares asked) next :=
  Obeys.step peaceful isConduct_spares spares

/-- Everybody has kept his place, and all listeners go on to spare all others. -/
structure KeepsListeners (asked : Nat → Prop) (before after : StoreSession) : Prop where
  peaceful : after.Peaceful asked
  rearranged : before.Rearranged asked after

theorem KeepsListeners.trans (first : before.KeepsListeners asked between)
    (second : between.KeepsListeners asked after) : before.KeepsListeners asked after :=
  ⟨second.peaceful, first.rearranged.trans second.rearranged⟩

theorem Peaceful.refl (peaceful : session.Peaceful asked) :
    session.KeepsListeners asked session := ⟨peaceful, .refl session⟩

theorem Peaceful.obtainId (peaceful : session.Peaceful asked) :
    session.KeepsListeners asked session.obtainId.2 := by
  obtain ⟨rearranged, kept⟩ := Obeys.obtainId peaceful isConduct_spares (session.Rearranged asked)
    (fun between _ spares moved => moved.trans (between.rearranged_step spares))
    (session.rearranged_perform ⟨rfl, trivial⟩)
  exact ⟨kept, rearranged⟩

end StoreSession

end Telemetry
