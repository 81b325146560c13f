import Telemetry.Registry
import Telemetry.Uncaught
/-!
Chains of handlers for uncaught errors.

The interceptors of a chain are called in the order of their installation, and after them the
terminal handler.  Who is called is settled when the error is handed to the chain: what handlers
change meanwhile counts from the next error on.
-/

namespace Telemetry

structure HookChain (α : Type) where
  interceptors : Registry α := .empty
  terminal : Option α := none
  deriving Inhabited

namespace HookChain

variable {α : Type}

/-- Adds an interceptor; its number is that of the next registration. -/
def install (chain : HookChain α) (handler : α) : HookChain α :=
  { chain with interceptors := chain.interceptors.add handler }

def uninstall (chain : HookChain α) (number : Nat) : HookChain α :=
  { chain with interceptors := chain.interceptors.remove number }

def setTerminal (chain : HookChain α) (handler : Option α) : HookChain α :=
  { chain with terminal := handler }

/-- The handlers that an error is handed to, in the order of the calls. -/
def handlers (chain : HookChain α) : List α :=
  chain.interceptors.items ++ chain.terminal.toList

def describe (chain : HookChain α) : String :=
  "ExceptionHookChain \x7b interceptors: " ++ toString chain.interceptors.size ++
    ", has_original: " ++ toString chain.terminal.isSome ++ " \x7d"

end HookChain

end Telemetry
