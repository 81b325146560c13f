import Telemetry.Hooks.Session
/-!
Sessions with a chain run to their end.

The frames that take the place of a frame hold fewer steps, together with what they add to
pending reactions, or as many steps at a lower cost.
-/

namespace Telemetry

theorem HookStep.sizes_split (steps : List HookStep) :
    HookStep.sizes (HookStep.split steps).1 +
        ((HookStep.split steps).2.elim 0 HookStep.sizes) ≤ HookStep.sizes steps := by
  fun_induction HookStep.split steps with
  | case1 => simp [HookStep.sizes]
  | case2 rest => simp [HookStep.sizes]
  | case3 step rest _ ih =>
      simp only [HookStep.sizes]
      omega

namespace HookSession

@[simp] theorem total_steps_calls (handlers : List Nat) (exception : UncaughtException) :
    total HookFrame.steps (calls handlers exception) = 0 := by
  induction handlers with
  | nil => rfl
  | cons handler rest ih =>
      simp only [calls, List.map_cons, total_cons] at ih ⊢
      simp [HookFrame.steps, ih]

@[simp] theorem total_cost_calls (handlers : List Nat) (exception : UncaughtException) :
    total HookFrame.cost (calls handlers exception) = 2 * handlers.length := by
  induction handlers with
  | nil => rfl
  | cons handler rest ih =>
      simp only [calls, List.map_cons, total_cons, List.length_cons] at ih ⊢
      simp only [HookFrame.cost, ih]
      omega

def reach (session : HookSession) : Nat :=
  session.chain.interceptors.size + 1 + session.pendingSteps

theorem length_handlers_le (chain : HookChain Nat) :
    chain.handlers.length ≤ chain.interceptors.size + 1 := by
  simp only [HookChain.handlers, Registry.items, Registry.size, List.length_append, List.length_map]
  cases chain.terminal <;> simp

theorem perform_descends (session : HookSession) (next : HookStep) :
    total HookFrame.steps (session.perform next).1 = 0 ∧
      total HookFrame.cost (session.perform next).1 ≤
        2 * (session.chain.interceptors.size + 1) ∧
      (session.perform next).2.2.pendingSteps + 1 ≤ session.pendingSteps + next.size ∧
      (session.perform next).2.2.reach ≤ session.reach + next.size := by
  have aside (size : 1 ≤ next.size) :
      session.pendingSteps + 1 ≤ session.pendingSteps + next.size ∧
        session.reach ≤ session.reach + next.size :=
    ⟨Nat.add_le_add_left size _, Nat.le_add_right _ _⟩
  cases next with
  | install name reaction =>
      refine ⟨rfl, Nat.zero_le _, ?_, ?_⟩
      · simp only [perform, withScript, HookStep.size, pendingSteps, total_append, total_cons,
          total_nil, HookScript.steps]
        omega
      · simp only [perform, withScript, HookStep.size, reach, pendingSteps, total_append,
          total_cons, total_nil, HookScript.steps, HookChain.install, Registry.size, Registry.add,
          List.length_append, List.length_singleton]
        omega
  | uninstall index =>
      simp only [perform]
      split
      · exact ⟨rfl, Nat.zero_le _, aside (Nat.le_refl 1)⟩
      · rename_i number _
        refine ⟨rfl, Nat.zero_le _, Nat.le_refl _, ?_⟩
        have fewer : (session.chain.interceptors.remove number).size ≤
            session.chain.interceptors.size := List.length_filter_le _ _
        simp only [HookStep.size, reach, pendingSteps, HookChain.uninstall]
        omega
  | setTerminal name reaction =>
      refine ⟨rfl, Nat.zero_le _, ?_, ?_⟩
      · simp only [perform, withScript, HookStep.size, pendingSteps, total_append, total_cons,
          total_nil, HookScript.steps]
        omega
      · simp only [perform, withScript, HookStep.size, reach, pendingSteps, total_append,
          total_cons, total_nil, HookScript.steps, HookChain.setTerminal]
        omega
  | clearTerminal => exact ⟨rfl, Nat.zero_le _, aside (Nat.le_refl 1)⟩
  | dispatch exception =>
      refine ⟨total_steps_calls _ _, ?_, aside (Nat.le_refl 1)⟩
      have few := length_handlers_le session.chain
      simp only [perform, total_cost_calls]
      omega
  | _ => exact ⟨rfl, Nat.zero_le _, aside (Nat.le_refl 1)⟩

theorem call_descends (session : HookSession) (handler : Nat) (exception : UncaughtException) :
    total HookFrame.steps (session.call handler exception).1 +
          (session.call handler exception).2.pendingSteps ≤ session.pendingSteps ∧
      total HookFrame.cost (session.call handler exception).1 < 2 ∧
      (session.call handler exception).2.chain = session.chain := by
  unfold call
  split
  · simp
  · rename_i script found
    dsimp only
    split
    · simp [pendingSteps]
    · rename_i steps reaction
      have held : script.steps = HookStep.sizes steps := by simp [HookScript.steps, reaction]
      have divided := HookStep.sizes_split steps
      have replaced := total_set HookScript.steps session.scripts handler
        { script with reaction := (HookStep.split steps).2 } script found
      have left : HookScript.steps { script with reaction := (HookStep.split steps).2 } =
          (HookStep.split steps).2.elim 0 HookStep.sizes := by
        cases (HookStep.split steps).2 <;> simp [HookScript.steps]
      refine ⟨?_, Nat.lt_succ_self 1, rfl⟩
      simp only [total_cons, total_nil, HookFrame.steps, pendingSteps]
      omega

def weight (session : HookSession) (agenda : List HookFrame) : Nat :=
  agendaWeight (total HookFrame.steps agenda + session.pendingSteps)
    (total HookFrame.cost agenda) (total HookFrame.steps agenda + session.reach)

/-- What takes the place of a frame: no more steps and no more handlers, and either fewer steps or
a lower cost. -/
theorem step_descends (session : HookSession) (frame : HookFrame) :
    total HookFrame.steps (session.step frame).1 + (session.step frame).2.pendingSteps ≤
        frame.steps + session.pendingSteps ∧
      total HookFrame.steps (session.step frame).1 + (session.step frame).2.reach ≤
        frame.steps + session.reach ∧
      (total HookFrame.steps (session.step frame).1 + (session.step frame).2.pendingSteps <
          frame.steps + session.pendingSteps ∧
          total HookFrame.cost (session.step frame).1 ≤
            2 * (session.chain.interceptors.size + 1) + 2 ∨
        total HookFrame.cost (session.step frame).1 < frame.cost) := by
  unfold step
  split
  · rename_i handler exception
    obtain ⟨steps, cost, same⟩ := call_descends session handler exception
    simp only [HookFrame.steps, HookFrame.cost, reach, same]
    omega
  · simp [HookFrame.steps, HookFrame.cost, HookStep.sizes]
  · simp only [total_cons, total_nil, HookFrame.steps, HookStep.sizes, HookStep.size,
      HookFrame.cost]
    omega
  · rename_i name next rest _
    obtain ⟨steps, cost, pending, reach⟩ := perform_descends session next
    simp only [total_append, total_cons, total_nil, HookFrame.steps, HookStep.sizes,
      HookFrame.cost]
    omega
  · simp [HookFrame.steps, HookFrame.cost, pendingSteps, reach]
  · simp [HookFrame.steps, HookFrame.cost, pendingSteps, reach]
  · simp [HookFrame.steps, HookFrame.cost, pendingSteps, reach]

theorem weight_descends (session : HookSession) (frame : HookFrame) (rest : List HookFrame) :
    (session.step frame).2.weight ((session.step frame).1 ++ rest) <
      session.weight (frame :: rest) := by
  obtain ⟨steps, reaches, pays⟩ := step_descends session frame
  have size : session.chain.interceptors.size + 1 ≤ session.reach := Nat.le_add_right _ _
  simp only [weight, total_append, total_cons]
  apply agendaWeight_falls
  · omega
  · omega
  · omega

def run (session : HookSession) (agenda : List HookFrame) : HookSession :=
  match agenda with
  | [] => session
  | .panic message :: _ => (session.step (.panic message)).2
  | frame :: rest => run (session.step frame).2 ((session.step frame).1 ++ rest)
termination_by session.weight agenda
decreasing_by exact weight_descends session frame rest

def take (session : HookSession) (next : HookStep) : HookSession :=
  session.run [.take none [next]]

end HookSession

end Telemetry
