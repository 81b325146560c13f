/-!
The hook of a process for panics, as a value.

A bridge hands panics to a chain before the hook that it found runs.  Taking a bridge down puts
the hook back that it found when it was set up.
-/

namespace Telemetry

/-- A hook; chains are known by values of type `κ`. -/
inductive PanicHook (κ : Type) where
  | initial
  | bridged (chain : κ) (previous : PanicHook κ)
  deriving DecidableEq, Repr, Inhabited

structure PanicBridge (κ : Type) where
  previous : PanicHook κ
  deriving DecidableEq, Repr, Inhabited

namespace PanicHook

variable {κ : Type}

def bridge (hook : PanicHook κ) (chain : κ) : PanicBridge κ × PanicHook κ :=
  (⟨hook⟩, .bridged chain hook)

def chains : PanicHook κ → List κ
  | .initial => []
  | .bridged chain previous => chain :: previous.chains

end PanicHook

def PanicBridge.remove {κ : Type} (bridge : PanicBridge κ) : PanicHook κ := bridge.previous

end Telemetry
