import Telemetry.Preferences.Session
/-!
Sessions with a store run to their end.

The frames that take the place of a frame hold fewer steps, together with what they add to
pending reactions, or as many steps at a lower cost.
-/

namespace Telemetry

theorem Script.steps_of_reactionTo {script : Script} {key : String} {steps : List StoreStep}
    (reaction : script.reactionTo? key = some steps) :
    script.steps = StoreStep.sizes steps := by
  have present : script.reaction = some steps := by
    unfold Script.reactionTo? at reaction
    split at reaction
    · exact reaction
    · split at reaction
      · exact reaction
      · simp at reaction
  simp [Script.steps, present]

theorem StoreStep.sizes_split (steps : List StoreStep) :
    StoreStep.sizes (StoreStep.split steps).1 +
        ((StoreStep.split steps).2.elim 0 StoreStep.sizes) ≤ StoreStep.sizes steps := by
  fun_induction StoreStep.split steps with
  | case1 => simp [StoreStep.sizes]
  | case2 rest => simp [StoreStep.sizes]
  | case3 step rest _ ih =>
      simp only [StoreStep.sizes]
      omega

namespace StoreSession

@[simp] theorem total_steps_tellings (listeners : List Listener) (key : String) :
    total StoreFrame.steps (tellings listeners key) = 0 := by
  induction listeners with
  | nil => rfl
  | cons listener rest ih =>
      simp only [tellings, List.map_cons, total_cons] at ih ⊢
      simp [StoreFrame.steps, ih]

@[simp] theorem total_cost_tellings (listeners : List Listener) (key : String) :
    total StoreFrame.cost (tellings listeners key) = 2 * listeners.length := by
  induction listeners with
  | nil => rfl
  | cons listener rest ih =>
      simp only [tellings, List.map_cons, total_cons, List.length_cons] at ih ⊢
      simp only [StoreFrame.cost, ih]
      omega

def reach (session : StoreSession) : Nat :=
  session.store.listeners.size + session.pendingSteps

theorem write_cases (session : StoreSession) (key : String) (value : Option Preference)
    (success : StoreResult) :
    (∃ result disk, session.write key value success = ([], result, { session with disk })) ∨
      ∃ disk, session.write key value success =
        (tellings session.store.listeners.items key, success,
          { session with
            disk, store := { session.store with values := session.store.values.put key value } }) := by
  unfold write
  rcases session.store.put_cases session.disk key value with
    ⟨outcome, disk, written, nobody⟩ | ⟨disk, written⟩
  · rw [written]
    cases outcome with
    | ok listeners =>
        rw [nobody listeners rfl]
        exact .inl ⟨success, disk, rfl⟩
    | error fault => exact .inl ⟨.failed fault, disk, rfl⟩
  · rw [written]
    exact .inr ⟨disk, rfl⟩

theorem write_tells (session : StoreSession) (key : String) (value : Option Preference)
    (success : StoreResult) :
    total StoreFrame.steps (session.write key value success).1 = 0 ∧
      total StoreFrame.cost (session.write key value success).1 ≤
        2 * session.store.listeners.size ∧
      (session.write key value success).2.2.pendingSteps = session.pendingSteps ∧
      (session.write key value success).2.2.reach = session.reach := by
  rcases write_cases session key value success with ⟨result, disk, written⟩ | ⟨disk, written⟩
  · rw [written]
    exact ⟨rfl, Nat.zero_le _, rfl, rfl⟩
  · rw [written]
    refine ⟨total_steps_tellings _ _, ?_, rfl, rfl⟩
    simp [Registry.items, Registry.size]

theorem perform_descends (session : StoreSession) (next : StoreStep) :
    total StoreFrame.steps (session.perform next).1 = 0 ∧
      total StoreFrame.cost (session.perform next).1 ≤ 2 * session.store.listeners.size ∧
      (session.perform next).2.2.pendingSteps + 1 ≤ session.pendingSteps + next.size ∧
      (session.perform next).2.2.reach ≤ session.reach + next.size := by
  have aside (disk : Disk) (draws : Nat) (size : 1 ≤ next.size) :
      ({ session with disk, draws } : StoreSession).pendingSteps + 1 ≤
          session.pendingSteps + next.size ∧
        ({ session with disk, draws } : StoreSession).reach ≤ session.reach + next.size :=
    ⟨Nat.add_le_add_left size _, Nat.le_add_right _ _⟩
  cases next with
  | put key value =>
      obtain ⟨steps, cost, pending, reach⟩ := write_tells session key value .written
      refine ⟨steps, cost, ?_, ?_⟩
      · simp only [perform, StoreStep.size]
        omega
      · simp only [perform, StoreStep.size]
        omega
  | installationId =>
      simp only [perform]
      split
      · exact ⟨rfl, Nat.zero_le _, aside session.disk session.draws (Nat.le_refl 1)⟩
      · exact ⟨rfl, Nat.zero_le _, aside session.disk session.draws (Nat.le_refl 1)⟩
      · obtain ⟨steps, cost, pending, reach⟩ :=
          write_tells { session with draws := session.draws + 1 } installationKey
            (some (.text (drawnIdentifier session.draws)))
            (.identified (drawnIdentifier session.draws))
        refine ⟨steps, cost, ?_, ?_⟩
        · rw [pending]
          exact Nat.le_refl _
        · rw [reach]
          exact Nat.le_add_right _ _
  | subscribe name awaited reaction =>
      refine ⟨rfl, Nat.zero_le _, ?_, ?_⟩
      · simp only [perform, StoreStep.size, pendingSteps, total_append, total_cons, total_nil,
          Script.steps]
        omega
      · simp only [perform, StoreStep.size, reach, pendingSteps, total_append, total_cons,
          total_nil, Script.steps, Store.subscribe, Registry.size, Registry.add,
          List.length_append, List.length_singleton]
        omega
  | unsubscribe index =>
      simp only [perform]
      split
      · exact ⟨rfl, Nat.zero_le _, aside session.disk session.draws (Nat.le_refl 1)⟩
      · rename_i number _
        refine ⟨rfl, Nat.zero_le _, Nat.le_refl _, ?_⟩
        have fewer : (session.store.listeners.remove number).size ≤
            session.store.listeners.size := List.length_filter_le _ _
        simp only [StoreStep.size, reach, pendingSteps, Store.unsubscribe]
        omega
  | reopen =>
      simp only [perform]
      split
      · exact ⟨rfl, Nat.zero_le _, aside session.disk session.draws (Nat.le_refl 1)⟩
      · split
        · rename_i store opened
          refine ⟨rfl, Nat.zero_le _, Nat.le_refl _, ?_⟩
          have empty : store.listeners.size = 0 := Store.size_openFile opened
          simp only [StoreStep.size, reach, pendingSteps, empty]
          omega
        · exact ⟨rfl, Nat.zero_le _, aside session.disk session.draws (Nat.le_refl 1)⟩
  | place path entry =>
      simp only [perform]
      split
      · exact ⟨rfl, Nat.zero_le _, aside session.disk session.draws (Nat.le_refl 1)⟩
      · exact ⟨rfl, Nat.zero_le _, aside session.disk session.draws (Nat.le_refl 1)⟩
      · split
        · exact ⟨rfl, Nat.zero_le _, aside _ session.draws (Nat.le_refl 1)⟩
        · exact ⟨rfl, Nat.zero_le _, aside session.disk session.draws (Nat.le_refl 1)⟩
  | discard path =>
      simp only [perform]
      split
      · exact ⟨rfl, Nat.zero_le _, aside session.disk session.draws (Nat.le_refl 1)⟩
      · exact ⟨rfl, Nat.zero_le _, aside _ session.draws (Nat.le_refl 1)⟩
  | _ => exact ⟨rfl, Nat.zero_le _, aside session.disk session.draws (Nat.le_refl 1)⟩

theorem tell_descends (session : StoreSession) (index : Nat) (key : String) :
    total StoreFrame.steps (session.tell index key).1 + (session.tell index key).2.pendingSteps ≤
        session.pendingSteps ∧
      total StoreFrame.cost (session.tell index key).1 < 2 ∧
      (session.tell index key).2.store = session.store := by
  unfold tell
  split
  · simp
  · rename_i script found
    dsimp only
    split
    · simp [pendingSteps]
    · rename_i steps reaction
      have held := Script.steps_of_reactionTo reaction
      have divided := StoreStep.sizes_split steps
      have replaced := total_set Script.steps session.scripts index
        { script with reaction := (StoreStep.split steps).2 } script found
      have left : Script.steps { script with reaction := (StoreStep.split steps).2 } =
          (StoreStep.split steps).2.elim 0 StoreStep.sizes := by
        cases (StoreStep.split steps).2 <;> simp [Script.steps]
      refine ⟨?_, Nat.lt_succ_self 1, rfl⟩
      simp only [total_cons, total_nil, StoreFrame.steps, pendingSteps]
      omega

def weight (session : StoreSession) (agenda : List StoreFrame) : Nat :=
  agendaWeight (total StoreFrame.steps agenda + session.pendingSteps)
    (total StoreFrame.cost agenda) (total StoreFrame.steps agenda + session.reach)

/-- What takes the place of a frame: no more steps and no more listeners, and either fewer steps or
a lower cost. -/
theorem step_descends (session : StoreSession) (frame : StoreFrame) :
    total StoreFrame.steps (session.step frame).1 + (session.step frame).2.pendingSteps ≤
        frame.steps + session.pendingSteps ∧
      total StoreFrame.steps (session.step frame).1 + (session.step frame).2.reach ≤
        frame.steps + session.reach ∧
      (total StoreFrame.steps (session.step frame).1 + (session.step frame).2.pendingSteps <
          frame.steps + session.pendingSteps ∧
          total StoreFrame.cost (session.step frame).1 ≤ 2 * session.store.listeners.size + 2 ∨
        total StoreFrame.cost (session.step frame).1 < frame.cost) := by
  cases frame with
  | tell listener key =>
      cases listener with
      | scripted index =>
          obtain ⟨steps, cost, same⟩ := tell_descends session index key
          simp only [step, StoreFrame.steps, StoreFrame.cost, reach, same]
          omega
      | service =>
          simp only [step, StoreFrame.steps, StoreFrame.cost]
          split <;> simp [pendingSteps, reach]
  | take name steps =>
      cases steps with
      | nil => simp [step, StoreFrame.steps, StoreFrame.cost, StoreStep.sizes]
      | cons next rest =>
          obtain ⟨steps, cost, pending, reach⟩ := perform_descends session next
          simp only [step, total_append, total_cons, total_nil, StoreFrame.steps, StoreStep.sizes,
            StoreFrame.cost]
          omega
  | conclude name result =>
      cases name <;> simp [step, StoreFrame.steps, StoreFrame.cost, pendingSteps, reach]

theorem weight_descends (session : StoreSession) (frame : StoreFrame) (rest : List StoreFrame) :
    (session.step frame).2.weight ((session.step frame).1 ++ rest) <
      session.weight (frame :: rest) := by
  obtain ⟨steps, reaches, pays⟩ := step_descends session frame
  have size : session.store.listeners.size ≤ session.reach := Nat.le_add_right _ _
  simp only [weight, total_append, total_cons]
  apply agendaWeight_falls
  · omega
  · omega
  · omega

def run (session : StoreSession) (agenda : List StoreFrame) : StoreSession :=
  match agenda with
  | [] => session
  | frame :: rest => run (session.step frame).2 ((session.step frame).1 ++ rest)
termination_by session.weight agenda
decreasing_by exact weight_descends session frame rest

def take (session : StoreSession) (next : StoreStep) : StoreSession :=
  session.run [.take none [next]]

end StoreSession

end Telemetry
