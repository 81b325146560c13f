import Telemetry.Proofs.Preferences.Conduct
import Telemetry.Proofs.Preferences.Writing
import Telemetry.Proofs.Registry

/-! Sessions with a store that a service listens to. Whatever the other listeners do, they cannot
take the place of the service back, and every change of a preference is told to all who listen
when it is made. -/

namespace Telemetry

namespace StoreSession

/-- The service listens under the number of its subscription and under no other, and nobody else
knows that number. All that listeners still have to do leaves the store in its place. -/
structure Guarded (subscription : Option Nat) (session : StoreSession) : Prop where
  own : ∀ number, (number, Listener.service) ∈ session.store.listeners.entries ↔
    subscription = some number
  others : ∀ number ∈ session.numbers, number < session.store.listeners.next ∧
    subscription ≠ some number
  stays : ∀ script ∈ session.scripts, ∀ reaction, script.reaction = some reaction →
    StoreStep.stayOpen reaction = true

variable {subscription : Option Nat} {session : StoreSession}

theorem Guarded.obeys (guarded : session.Guarded subscription) :
    session.Obeys (·.staysOpen = true) := fun script member reaction held =>
  (StoreStep.stayOpen_iff reaction).mp (guarded.stays script member reaction held)

theorem Guarded.of_obeys (obeys : session.Obeys (·.staysOpen = true))
    (own : session.store.listeners.Enrolled .service subscription)
    (others : ∀ number ∈ session.numbers, number < session.store.listeners.next ∧
      subscription ≠ some number) : session.Guarded subscription where
  own := own
  others := others
  stays := fun script member reaction held =>
    (StoreStep.stayOpen_iff reaction).mpr (obeys script member reaction held)

theorem Guarded.aside (guarded : session.Guarded subscription) {after : StoreSession}
    (listeners : after.store.listeners = session.store.listeners)
    (numbers : after.numbers = session.numbers) (obeys : after.Obeys (·.staysOpen = true)) :
    after.Guarded subscription := by
  apply Guarded.of_obeys obeys
  · rw [listeners]
    exact guarded.own
  · rw [listeners, numbers]
    exact guarded.others

theorem Guarded.perform (guarded : session.Guarded subscription) {next : StoreStep}
    (stays : next.staysOpen = true) : (session.perform next).2.2.Guarded subscription := by
  obtain ⟨frames, result, after, performed, stepped⟩ := session.stepped_perform next stays
  have obeys : after.Obeys (·.staysOpen = true) := by
    apply stepped.obeys guarded.obeys
    rintro name awaited reaction rfl
    exact (StoreStep.stayOpen_iff reaction).mp stays
  rw [performed]
  cases stepped with
  | aside disk draws => exact guarded.aside rfl rfl obeys
  | written disk draws key value => exact guarded.aside rfl rfl obeys
  | subscribed name awaited reaction asked =>
      apply Guarded.of_obeys obeys
      · exact Registry.Enrolled.add_other guarded.own Listener.noConfusion
      · intro number member
        change number < session.store.listeners.next + 1 ∧ subscription ≠ some number
        rcases List.mem_append.mp member with old | new
        · have known := guarded.others number old
          exact ⟨Nat.lt_succ_of_lt known.1, known.2⟩
        · rw [List.mem_singleton.mp new]
          refine ⟨Nat.lt_succ_self _, ?_⟩
          intro held
          exact Nat.lt_irrefl _ (Registry.Enrolled.below guarded.own held)
  | unsubscribed number known =>
      apply Guarded.of_obeys obeys
      · exact Registry.Enrolled.remove_other guarded.own (guarded.others number known).2
      · exact guarded.others

def StaysOpen : StoreFrame → Prop
  | .take _ steps => StoreStep.stayOpen steps = true
  | _ => True

theorem staysOpen_iff (frame : StoreFrame) : StaysOpen frame ↔ Fits (·.staysOpen = true) frame := by
  cases frame with
  | take name steps => exact StoreStep.stayOpen_iff steps
  | _ => exact Iff.rfl

theorem staysOpen_take {step : StoreStep} (stays : step.staysOpen = true) :
    ∀ frame ∈ [StoreFrame.take none [step]], StaysOpen frame := by
  intro frame member
  rw [List.mem_singleton.mp member]
  simp only [StaysOpen, StoreStep.stayOpen, stays, Bool.and_self]

theorem Guarded.step (guarded : session.Guarded subscription) {frame : StoreFrame}
    (stays : StaysOpen frame) :
    (session.step frame).2.Guarded subscription ∧
      ∀ next ∈ (session.step frame).1, StaysOpen next := by
  obtain ⟨obeys, news⟩ :=
    guarded.obeys.step StoreStep.isConduct_staysOpen ((staysOpen_iff frame).mp stays)
  refine ⟨?_, fun next member => (staysOpen_iff next).mpr (news next member)⟩
  rcases session.step_cases frame with
    ⟨name, next, rest, rfl, taken⟩ | ⟨notes, scripts, deadlocked, result, kept⟩
  · simp only [StaysOpen, StoreStep.stayOpen, Bool.and_eq_true] at stays
    rw [taken]
    exact guarded.perform stays.1
  · rw [kept] at obeys ⊢
    exact guarded.aside rfl rfl obeys

theorem Guarded.run (guarded : session.Guarded subscription) {agenda : List StoreFrame}
    (stays : ∀ frame ∈ agenda, StaysOpen frame) : (session.run agenda).Guarded subscription :=
  (guarded.obeys.run StoreStep.isConduct_staysOpen (Guarded subscription)
    (fun _ frame stays held => (held.step ((staysOpen_iff frame).mpr stays)).1)
    (fun frame member => (staysOpen_iff frame).mp (stays frame member)) guarded).1

theorem Guarded.obtainId (guarded : session.Guarded subscription) :
    session.obtainId.2.Guarded subscription :=
  (guarded.obeys.obtainId StoreStep.isConduct_staysOpen (Guarded subscription)
    (fun _ frame stays held => (held.step ((staysOpen_iff frame).mpr stays)).1)
    (guarded.perform rfl)).1

/-- A frame changes no value and tells nobody, or it changes one value and tells it to all who
listen, and to nobody else. -/
theorem told_step (session : StoreSession) {frame : StoreFrame} (stays : StaysOpen frame) :
    (∀ listener key, .tell listener key ∉ (session.step frame).1) ∧
        (∀ key, (session.step frame).2.store.get? key = session.store.get? key) ∨
      ∃ changed, (∀ listener key, .tell listener key ∈ (session.step frame).1 ↔
          listener ∈ session.store.listeners.items ∧ key = changed) ∧
        ∀ key ≠ changed, (session.step frame).2.store.get? key = session.store.get? key := by
  cases frame with
  | tell listener other =>
      refine .inl ?_
      cases listener with
      | scripted index =>
          simp only [step, tell]
          split
          · exact ⟨fun _ _ => List.not_mem_nil, fun _ => rfl⟩
          · split
            · exact ⟨fun _ _ => List.not_mem_nil, fun _ => rfl⟩
            · refine ⟨fun listener key told => ?_, fun _ => rfl⟩
              cases List.mem_singleton.mp told
      | service =>
          simp only [step]
          split
          · exact ⟨fun _ _ => List.not_mem_nil, fun _ => rfl⟩
          · exact ⟨fun _ _ => List.not_mem_nil, fun _ => rfl⟩
  | take name steps =>
      cases steps with
      | nil => exact .inl ⟨fun _ _ => List.not_mem_nil, fun _ => rfl⟩
      | cons next rest =>
          simp only [StaysOpen, StoreStep.stayOpen, Bool.and_eq_true] at stays
          obtain ⟨frames, result, after, performed, stepped⟩ := session.stepped_perform next stays.1
          simp only [step, performed, List.mem_append, List.mem_cons, reduceCtorEq, or_false,
            List.not_mem_nil]
          cases stepped with
          | aside disk draws => exact .inl ⟨fun _ _ => List.not_mem_nil, fun _ => rfl⟩
          | written disk draws changed value =>
              refine .inr ⟨changed, ?_, fun key other => Values.get_put_other other.symm value _⟩
              intro listener key
              simp only [tellings, List.mem_map, StoreFrame.tell.injEq]
              constructor
              · rintro ⟨found, member, rfl, rfl⟩
                exact ⟨member, rfl⟩
              · rintro ⟨member, rfl⟩
                exact ⟨listener, member, rfl, rfl⟩
          | subscribed name awaited reaction asked =>
              exact .inl ⟨fun _ _ => List.not_mem_nil, fun _ => rfl⟩
          | unsubscribed number known => exact .inl ⟨fun _ _ => List.not_mem_nil, fun _ => rfl⟩
  | conclude name result =>
      refine .inl ?_
      cases name with
      | none => exact ⟨fun _ _ => List.not_mem_nil, fun _ => rfl⟩
      | some name => exact ⟨fun _ _ => List.not_mem_nil, fun _ => rfl⟩

end StoreSession

end Telemetry
