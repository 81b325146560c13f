import Telemetry.Hooks.Run

/-! Handlers that return. What a handler adds to its chain while it runs are handlers again; as long
as none of them panics, an error that is handed to the chain passes all of its handlers, and
everything that was to be done after it is done. -/

namespace Telemetry

mutual

/-- The step does not panic, nor do the steps of the reaction that it brings along. -/
def HookStep.Returns : HookStep → Prop
  | .panic => False
  | .install _ reaction | .setTerminal _ reaction => HookStep.AllReturn reaction
  | _ => True

def HookStep.AllReturn : List HookStep → Prop
  | [] => True
  | step :: rest => step.Returns ∧ HookStep.AllReturn rest

end

theorem HookStep.AllReturn.split {steps : List HookStep} (returns : HookStep.AllReturn steps) :
    HookStep.AllReturn (HookStep.split steps).1 ∧
      ∀ left, (HookStep.split steps).2 = some left → HookStep.AllReturn left := by
  fun_induction HookStep.split steps with
  | case1 => exact ⟨returns, fun _ none_left => absurd none_left (Option.some_ne_none _).symm⟩
  | case2 rest =>
      refine ⟨trivial, fun left kept => ?_⟩
      rw [← Option.some.inj kept]
      exact returns.2
  | case3 step rest _ ih => exact ⟨⟨returns.1, (ih returns.2).1⟩, (ih returns.2).2⟩

namespace HookSession

def Returning (session : HookSession) : Prop :=
  ∀ script ∈ session.scripts, ∀ reaction, script.reaction = some reaction →
    HookStep.AllReturn reaction

def Harmless : HookFrame → Prop
  | .panic _ => False
  | .take _ steps => HookStep.AllReturn steps
  | _ => True

variable {session : HookSession}

theorem harmless_calls (handlers : List Nat) (exception : UncaughtException) :
    ∀ frame ∈ calls handlers exception, Harmless frame := by
  intro frame member
  obtain ⟨handler, _, rfl⟩ := List.mem_map.mp member
  trivial

theorem Returning.withScript (returning : session.Returning) (name : String)
    {reaction : List HookStep} (returns : HookStep.AllReturn reaction) :
    (session.withScript name reaction).Returning := by
  intro script member later held
  rcases List.mem_append.mp member with old | new
  · exact returning script old later held
  · rw [List.mem_singleton.mp new] at held
    rw [← Option.some.inj held]
    exact returns

theorem Returning.perform (returning : session.Returning) {next : HookStep}
    (returns : next.Returns) :
    (session.perform next).2.2.Returning ∧
      ∀ frame ∈ (session.perform next).1, Harmless frame := by
  cases next with
  | install name reaction => exact ⟨returning.withScript name returns, List.forall_mem_nil _⟩
  | setTerminal name reaction => exact ⟨returning.withScript name returns, List.forall_mem_nil _⟩
  | uninstall index =>
      unfold HookSession.perform
      dsimp only
      split
      · exact ⟨returning, List.forall_mem_nil _⟩
      · exact ⟨returning, List.forall_mem_nil _⟩
  | dispatch exception => exact ⟨returning, harmless_calls _ exception⟩
  | panic => cases returns
  | _ => exact ⟨returning, List.forall_mem_nil _⟩

theorem Returning.call (returning : session.Returning) (handler : Nat)
    (exception : UncaughtException) :
    (session.call handler exception).2.Returning ∧
      ∀ frame ∈ (session.call handler exception).1, Harmless frame := by
  unfold HookSession.call
  split
  · exact ⟨returning, List.forall_mem_nil _⟩
  · rename_i script found
    dsimp only
    split
    · exact ⟨returning, List.forall_mem_nil _⟩
    · rename_i steps reaction
      have parts := (returning script (List.mem_of_getElem? found) steps reaction).split
      constructor
      · intro other member later held
        rcases List.mem_or_eq_of_mem_set member with old | new
        · exact returning other old later held
        · rw [new] at held
          exact parts.2 later held
      · intro frame member
        rw [List.mem_singleton.mp member]
        exact parts.1

theorem step_take (name : Option String) {next : HookStep} (rest : List HookStep)
    (returns : next.Returns) : session.step (.take name (next :: rest)) =
      ((session.perform next).1 ++ [.conclude name (session.perform next).2.1, .take name rest],
        (session.perform next).2.2) := by
  cases next with
  | panic => cases returns
  | _ => rfl

theorem Returning.step (returning : session.Returning) {frame : HookFrame}
    (harmless : Harmless frame) :
    (session.step frame).2.Returning ∧ ∀ next ∈ (session.step frame).1, Harmless next := by
  cases frame with
  | call handler exception => exact returning.call handler exception
  | take name steps =>
      cases steps with
      | nil => exact ⟨returning, List.forall_mem_nil _⟩
      | cons next rest =>
          obtain ⟨first, others⟩ := harmless
          obtain ⟨kept, news⟩ := returning.perform first
          rw [step_take name rest first]
          refine ⟨kept, List.forall_mem_append.mpr ⟨news, ?_⟩⟩
          exact List.forall_mem_cons.mpr ⟨trivial, List.forall_mem_singleton.mpr others⟩
  | conclude name result =>
      cases name with
      | none => exact ⟨returning, List.forall_mem_nil _⟩
      | some name => exact ⟨returning, List.forall_mem_nil _⟩
  | panic message => cases harmless

theorem run_cons {frame : HookFrame} (harmless : Harmless frame) (rest : List HookFrame) :
    session.run (frame :: rest) = (session.step frame).2.run ((session.step frame).1 ++ rest) := by
  rw [HookSession.run]
  rintro message rfl
  cases harmless

theorem run_append {front : List HookFrame} (returning : session.Returning)
    (harmless : ∀ frame ∈ front, Harmless frame) (rest : List HookFrame) :
    session.run (front ++ rest) = (session.run front).run rest ∧
      (session.run front).Returning := by
  fun_induction HookSession.run session front with
  | case1 session =>
      exact ⟨rfl, returning⟩
  | case2 session message later => cases harmless _ List.mem_cons_self
  | case3 session frame later plain ih =>
      obtain ⟨first, others⟩ := List.forall_mem_cons.mp harmless
      obtain ⟨kept, news⟩ := returning.step first
      obtain ⟨whole, still⟩ := ih kept (List.forall_mem_append.mpr ⟨news, others⟩)
      refine ⟨?_, still⟩
      rw [List.cons_append, run_cons first, ← List.append_assoc]
      exact whole

theorem Returning.take (returning : session.Returning) {next : HookStep}
    (returns : next.Returns) : (session.take next).Returning := by
  have harmless : ∀ frame ∈ [HookFrame.take none [next]], Harmless frame :=
    List.forall_mem_singleton.mpr ⟨returns, trivial⟩
  exact (run_append returning harmless []).2

theorem Returning.dispatched (returning : session.Returning) (exception : UncaughtException) :
    (session.take (.dispatch exception)).result = .finished := by
  obtain ⟨whole, _⟩ := run_append returning (harmless_calls session.chain.handlers exception)
    [.conclude none .finished, .take none []]
  have first : session.take (.dispatch exception) =
      session.run (calls session.chain.handlers exception ++
        [.conclude none .finished, .take none []]) := by
    have harmless : Harmless (.take none [.dispatch exception]) := ⟨trivial, trivial⟩
    rw [HookSession.take, run_cons harmless, List.append_nil]
    rfl
  have last (before : HookSession) :
      (before.run [.conclude none .finished, .take none []]).result = .finished := by
    have concludes : Harmless (.conclude none .finished) := trivial
    have ends : Harmless (.take none []) := trivial
    rw [run_cons concludes, HookSession.step, List.nil_append, run_cons ends, HookSession.step,
      List.nil_append, HookSession.run]
  rw [first, whole, last]

end HookSession

end Telemetry
