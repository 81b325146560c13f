import Telemetry.Proofs.Hooks.Returning
import Telemetry.Proofs.Panic.Bridges

/-! A process with bridges. The hook that the process began with is at the bottom of every hook that
is ever set or kept by a bridge, so that every panic ends with it, in whatever order bridges come
and go, unless a handler of a chain panics in turn. -/

namespace Telemetry

inductive PanicEvent where
  | dispatched (chain : Nat)
  | began
  deriving DecidableEq, Repr

structure PanicProcess (World : Type) where
  bridges : Bridges := {}
  chains : List HookSession
  world : World
  events : List PanicEvent := []
  aborted : Bool := false

inductive ProcessStep where
  | bridge (step : BridgeStep)
  | use (chain : Nat) (step : HookStep)
  | panic (exception : UncaughtException)

/-- Nobody brings a handler that panics. -/
def ProcessStep.Returns : ProcessStep → Prop
  | .use _ step => step.Returns
  | _ => True

namespace PanicProcess

variable {World : Type} (first : UncaughtException → World → World)

def handle (exception : UncaughtException) :
    PanicHook Nat → PanicProcess World → PanicProcess World
  | .initial, process =>
      { process with
        world := first exception process.world
        events := process.events ++ [.began] }
  | .bridged chain previous, process =>
      match process.chains[chain]? with
      | none => handle exception previous process
      | some session =>
          let after := session.take (.dispatch exception)
          let handed :=
            { process with
              chains := process.chains.set chain after
              events := process.events ++ [.dispatched chain] }
          if after.result = .finished then handle exception previous handed
          else { handed with aborted := true }

def step (process : PanicProcess World) (next : ProcessStep) : PanicProcess World :=
  if process.aborted then process
  else
    match next with
    | .bridge (.install chain) =>
        if chain < process.chains.length then
          { process with bridges := process.bridges.install chain }
        else process
    | .bridge (.uninstall number) =>
        { process with bridges := process.bridges.uninstall number }
    | .use chain step =>
        { process with chains := process.chains.modify chain (·.take step) }
    | .panic exception => handle first exception process.bridges.hook process

def run (process : PanicProcess World) (steps : List ProcessStep) : PanicProcess World :=
  steps.foldl (step first) process

variable {first} {process : PanicProcess World}

def Finds (count : Nat) (hook : PanicHook Nat) : Prop := ∀ chain ∈ hook.chains, chain < count

/-- The process lives, no handler of a chain panics, and all hooks that are set or kept lead through
chains that there are. -/
structure Sound (process : PanicProcess World) : Prop where
  alive : process.aborted = false
  returning : ∀ session ∈ process.chains, session.Returning
  shaped : process.bridges.Shaped (Finds process.chains.length)

structure Handled (first : UncaughtException → World → World) (exception : UncaughtException)
    (hook : PanicHook Nat) (before after : PanicProcess World) : Prop where
  events : after.events = before.events ++ (hook.chains.map .dispatched ++ [.began])
  world : after.world = first exception before.world
  aborted : after.aborted = before.aborted
  bridges : after.bridges = before.bridges
  length : after.chains.length = before.chains.length
  returning : ∀ session ∈ after.chains, session.Returning

theorem handled_handle (exception : UncaughtException) {hook : PanicHook Nat}
    (finds : Finds process.chains.length hook)
    (returning : ∀ session ∈ process.chains, session.Returning) :
    Handled first exception hook process (handle first exception hook process) := by
  induction hook generalizing process with
  | initial => exact ⟨rfl, rfl, rfl, rfl, rfl, returning⟩
  | bridged chain previous ih =>
      obtain ⟨inside, further⟩ := List.forall_mem_cons.mp finds
      have found := List.getElem?_eq_getElem inside
      have session := returning _ (List.getElem_mem inside)
      have finished := session.dispatched exception
      have still : ∀ other ∈ process.chains.set chain
          (process.chains[chain].take (.dispatch exception)), other.Returning := by
        intro other member
        rcases List.mem_or_eq_of_mem_set member with old | new
        · exact returning other old
        · rw [new]
          exact session.take trivial
      have length : (process.chains.set chain
          (process.chains[chain].take (.dispatch exception))).length = process.chains.length :=
        List.length_set
      obtain ⟨events, world, aborted, bridges, same, kept⟩ := @ih
        { process with
          chains := process.chains.set chain (process.chains[chain].take (.dispatch exception))
          events := process.events ++ [.dispatched chain] }
        (fun other member => length.symm ▸ further other member) still
      simp only [handle, found, finished, if_true]
      refine ⟨?_, world, aborted, bridges, same.trans length, kept⟩
      rw [events]
      simp [PanicHook.chains]

theorem Sound.step (sound : process.Sound) {next : ProcessStep} (returns : next.Returns) :
    (process.step first next).Sound := by
  obtain ⟨alive, returning, shaped⟩ := sound
  unfold PanicProcess.step
  rw [if_neg (by rw [alive]; exact Bool.false_ne_true)]
  cases next with
  | bridge step =>
      cases step with
      | install chain =>
          dsimp only
          split
          · rename_i inside
            refine ⟨alive, returning, ?_⟩
            change Bridges.Shaped _ (process.bridges.step (.install chain))
            apply shaped.step
            intro other hook same finds
            obtain rfl := BridgeStep.install.inj same
            exact List.forall_mem_cons.mpr ⟨inside, finds⟩
          · exact ⟨alive, returning, shaped⟩
      | uninstall number =>
          refine ⟨alive, returning, ?_⟩
          change Bridges.Shaped _ (process.bridges.step (.uninstall number))
          apply shaped.step
          intro _ _ same
          cases same
  | use chain step =>
      refine ⟨alive, ?_, ?_⟩
      · intro session member
        obtain ⟨index, found⟩ := List.getElem?_of_mem member
        rw [List.getElem?_modify] at found
        obtain ⟨before, there, rfl⟩ := Option.map_eq_some_iff.mp found
        have old := returning before (List.mem_of_getElem? there)
        split
        · exact old.take returns
        · exact old
      · dsimp only
        rw [List.length_modify]
        exact shaped
  | panic exception =>
      have handled : Handled first exception _ process _ :=
        handled_handle exception shaped.hook returning
      refine ⟨handled.aborted.trans alive, handled.returning, ?_⟩
      rw [handled.bridges, handled.length]
      exact shaped

theorem Sound.run (sound : process.Sound) {steps : List ProcessStep}
    (returns : ∀ next ∈ steps, next.Returns) : (process.run first steps).Sound := by
  induction steps generalizing process with
  | nil => exact sound
  | cons next rest ih =>
      obtain ⟨now, later⟩ := List.forall_mem_cons.mp returns
      exact ih (sound.step now) later

/-- However bridges came and went: a panic is handed to chains, whose handlers return, and after all
of them the hook that the process began with runs, once. -/
theorem panic_ends_with_first_hook (first : UncaughtException → World → World)
    (bare : process.bridges = {}) (alive : process.aborted = false)
    (returning : ∀ session ∈ process.chains, session.Returning) {steps : List ProcessStep}
    (returns : ∀ next ∈ steps, next.Returns) (exception : UncaughtException) :
    let reached := process.run first steps
    let after := reached.step first (.panic exception)
    reached.aborted = false ∧
      after.events =
        reached.events ++ (reached.bridges.hook.chains.map .dispatched ++ [.began]) ∧
      after.world = first exception reached.world ∧ after.aborted = false := by
  intro reached after
  have begun : process.Sound := by
    refine ⟨alive, returning, ?_⟩
    rw [bare]
    exact ⟨List.forall_mem_nil _, fun _ _ => fun member => absurd member List.not_mem_nil⟩
  have sound : reached.Sound := begun.run returns
  have handled := @handled_handle _ first reached exception _ sound.shaped.hook sound.returning
  have panics : after = handle first exception reached.bridges.hook reached := by
    have lives : ¬ reached.aborted = true := by
      rw [sound.alive]
      exact Bool.false_ne_true
    exact if_neg lives
  rw [panics]
  exact ⟨sound.alive, handled.events, handled.world, handled.aborted.trans sound.alive⟩

/-- Two chains; the handler of the first one adds another handler and takes itself out. -/
def twoChains : PanicProcess (List String) where
  chains :=
    [({} : HookSession).take (.install "a" [.install "b" [], .uninstall 0]),
      ({} : HookSession).take (.setTerminal "c" [.clearTerminal])]
  world := []

/-- The bridges are taken down in the order in which they were set up; the chain of the first one is
back in the end. -/
def crossing : List ProcessStep :=
  [.bridge (.install 0), .bridge (.install 1), .use 1 (.install "d" [.describe]),
    .bridge (.uninstall 0), .bridge (.uninstall 1), .bridge (.uninstall 1)]

theorem panic_ends_with_first_hook_crossing :
    let note := fun (exception : UncaughtException) (seen : List String) =>
      seen ++ [exception.message]
    let reached := twoChains.run note crossing
    let after := reached.step note (.panic { message := "boom" })
    reached.bridges.hook.chains = [0] ∧ after.events = [.dispatched 0, .began] ∧
      after.world = ["boom"] ∧ after.aborted = false := by
  intro note reached after
  have returning : ∀ session ∈ twoChains.chains, session.Returning := by
    have fresh : HookSession.Returning {} := List.forall_mem_nil _
    exact List.forall_mem_cons.mpr ⟨fresh.take ⟨trivial, trivial, trivial⟩,
      List.forall_mem_singleton.mpr (fresh.take ⟨trivial, trivial⟩)⟩
  have returns : ∀ next ∈ crossing, next.Returns := by
    simp [crossing, ProcessStep.Returns, HookStep.Returns, HookStep.AllReturn]
  obtain ⟨_, events, world, alive⟩ :=
    panic_ends_with_first_hook note rfl rfl returning returns { message := "boom" }
  exact ⟨rfl, events, world, alive⟩

end PanicProcess

end Telemetry
