import Telemetry.Agenda
import Telemetry.Hooks.Chain
/-!
Sessions with a chain whose handlers react.

A handler is a name with a reaction: steps that it takes on the chain the first time it is
called.  A pause divides a reaction; what follows it is kept for the next time, so a handler may
do something else each time that it is called.  What is still to be done stands on an agenda; the
calls for an error go in front of everything else.  A handler may panic, which ends everything
that was still to be done.
-/

namespace Telemetry

inductive HookStep where
  | install (name : String) (reaction : List HookStep)
  | uninstall (index : Nat)
  | setTerminal (name : String) (reaction : List HookStep)
  | clearTerminal
  | dispatch (exception : UncaughtException)
  | describe
  | panic
  /-- Ends a part of a reaction; the next part comes when the handler is called again. -/
  | pause
  | senseless
  deriving Inhabited

mutual

def HookStep.size : HookStep → Nat
  | .install _ reaction => 1 + HookStep.sizes reaction
  | .setTerminal _ reaction => 1 + HookStep.sizes reaction
  | _ => 1

def HookStep.sizes : List HookStep → Nat
  | [] => 0
  | step :: rest => step.size + HookStep.sizes rest

end

/-- The first part of a reaction, and what is left of the reaction after it. -/
def HookStep.split : List HookStep → List HookStep × Option (List HookStep)
  | [] => ([], none)
  | .pause :: rest => ([], some rest)
  | step :: rest => (step :: (HookStep.split rest).1, (HookStep.split rest).2)

inductive HookResult where
  | installed (number : Nat)
  | uninstalled (known : Bool)
  | finished
  | described (words : String)
  | panicked (message : String)
  | senseless
  deriving DecidableEq, Repr, Inhabited

structure HookScript where
  name : String
  reaction : Option (List HookStep)
  deriving Inhabited

def HookScript.steps (script : HookScript) : Nat :=
  match script.reaction with
  | some steps => HookStep.sizes steps
  | none => 0

inductive HookNote where
  | called (name description : String)
  | stepped (name : String) (result : HookResult)
  deriving DecidableEq, Repr, Inhabited

/-- A chain with its surroundings; a handler is the index of its script. -/
structure HookSession where
  chain : HookChain Nat := {}
  scripts : List HookScript := []
  numbers : List Nat := []
  notes : List HookNote := []
  /-- What the last step that nobody's reaction took came to. -/
  result : HookResult := .senseless
  deriving Inhabited

inductive HookFrame where
  | call (handler : Nat) (exception : UncaughtException)
  /-- Takes steps; the name is that of the handler whose reaction they are. -/
  | take (name : Option String) (steps : List HookStep)
  | conclude (name : Option String) (result : HookResult)
  | panic (message : String)
  deriving Inhabited

/-- What a frame costs: a handler that is called may begin its reaction. -/
def HookFrame.cost : HookFrame → Nat
  | .call _ _ => 2
  | _ => 1

def HookFrame.steps : HookFrame → Nat
  | .take _ steps => HookStep.sizes steps
  | _ => 0

namespace HookSession

def pendingSteps (session : HookSession) : Nat := total HookScript.steps session.scripts

def calls (handlers : List Nat) (exception : UncaughtException) : List HookFrame :=
  handlers.map fun handler => .call handler exception

def withScript (session : HookSession) (name : String) (reaction : List HookStep) : HookSession :=
  { session with scripts := session.scripts ++ [⟨name, some reaction⟩] }

def perform (session : HookSession) : HookStep → List HookFrame × HookResult × HookSession
  | .install name reaction =>
      let number := session.chain.interceptors.next
      ([], .installed number,
        { session.withScript name reaction with
          chain := session.chain.install session.scripts.length
          numbers := session.numbers ++ [number] })
  | .uninstall index =>
      match session.numbers[index]? with
      | none => ([], .senseless, session)
      | some number =>
          ([], .uninstalled (session.chain.interceptors.holds number),
            { session with chain := session.chain.uninstall number })
  | .setTerminal name reaction =>
      ([], .finished,
        { session.withScript name reaction with
          chain := session.chain.setTerminal (some session.scripts.length) })
  | .clearTerminal => ([], .finished, { session with chain := session.chain.setTerminal none })
  | .dispatch exception => (calls session.chain.handlers exception, .finished, session)
  | .describe => ([], .described session.chain.describe, session)
  | .panic => ([], .senseless, session)
  | .pause => ([], .senseless, session)
  | .senseless => ([], .senseless, session)

def call (session : HookSession) (handler : Nat) (exception : UncaughtException) :
    List HookFrame × HookSession :=
  match session.scripts[handler]? with
  | none => ([], session)
  | some script =>
      let noted :=
        { session with notes := session.notes ++ [.called script.name exception.description] }
      match script.reaction with
      | none => ([], noted)
      | some steps =>
          let parts := HookStep.split steps
          ([.take (some script.name) parts.1],
            { noted with
              scripts := session.scripts.set handler { script with reaction := parts.2 } })

def panicMessage (name : String) : String := "handler " ++ name ++ " failed"

def step (session : HookSession) : HookFrame → List HookFrame × HookSession
  | .call handler exception => session.call handler exception
  | .take _ [] => ([], session)
  | .take (some name) (.panic :: _) => ([.panic (panicMessage name)], session)
  | .take name (next :: rest) =>
      let performed := session.perform next
      (performed.1 ++ [.conclude name performed.2.1, .take name rest], performed.2.2)
  | .conclude (some name) result =>
      ([], { session with notes := session.notes ++ [.stepped name result] })
  | .conclude none result => ([], { session with result })
  | .panic message => ([], { session with result := .panicked message })

end HookSession

end Telemetry
