import Telemetry.Agenda
import Telemetry.Installation
/-!
Sessions with a store whose listeners react.

A listener is a name with a reaction: steps that it takes on the store the first time it is told
of the key that it waits for.  A pause divides a reaction; what follows it is kept for the next
time, so a listener may do something else each time that it is told.  What is still to be done
stands on an agenda, whose first frame is done next; a change puts the listeners to tell in front
of everything else.  Every frame either uses up steps or makes the agenda cheaper, so every session
ends.
-/

namespace Telemetry

inductive StoreStep where
  | get (key : String)
  | getBoolean (key : String)
  | getText (key : String)
  | put (key : String) (value : Option Preference)
  | installationId
  /-- Adds a listener with its name, the key that it waits for (any key, if it names none) and
  its reaction. -/
  | subscribe (name : String) (awaited : Option String) (reaction : List StoreStep)
  | unsubscribe (index : Nat)
  | reopen
  | inspect
  | place (path : String) (entry : Option DiskEntry)
  | discard (path : String)
  /-- Ends a part of a reaction; the next part comes when the listener is told again. -/
  | pause
  | senseless
  deriving Inhabited

mutual

def StoreStep.size : StoreStep → Nat
  | .subscribe _ _ reaction => 1 + StoreStep.sizes reaction
  | _ => 1

def StoreStep.sizes : List StoreStep → Nat
  | [] => 0
  | step :: rest => step.size + StoreStep.sizes rest

end

def StoreStep.split : List StoreStep → List StoreStep × Option (List StoreStep)
  | [] => ([], none)
  | .pause :: rest => ([], some rest)
  | step :: rest => (step :: (StoreStep.split rest).1, (StoreStep.split rest).2)

inductive StoreResult where
  | found (value : Option Preference)
  | identified (id : String)
  | written
  | reopened
  | subscribed (number : Nat)
  | unsubscribed (known : Bool)
  | inspected (contents : Option String) (mode : Option Nat) (paths : List String)
  | rearranged
  | failed (fault : PreferenceFault)
  | senseless
  | misplaced
  deriving DecidableEq, Repr, Inhabited

def optInKey : String := "analyticsOptIn"

inductive Listener where
  | scripted (index : Nat)
  | service
  deriving DecidableEq, Repr, Inhabited

structure Script where
  name : String
  awaited : Option String
  reaction : Option (List StoreStep)
  deriving Inhabited

inductive Note where
  | told (name key : String)
  | stepped (name : String) (result : StoreResult)
  deriving DecidableEq, Repr, Inhabited

structure StoreSession where
  store : Store Listener := {}
  disk : Disk := {}
  directory : Place := []
  scripts : List Script := []
  numbers : List Nat := []
  draws : Nat := 0
  notes : List Note := []
  /-- The service was told of the key that it waits for while it was busy with the store itself:
  it now waits for itself. -/
  deadlocked : Bool := false
  result : StoreResult := .senseless
  deriving Inhabited

inductive StoreFrame where
  | tell (listener : Listener) (key : String)
  /-- Takes steps; the name is that of the listener whose reaction they are. -/
  | take (name : Option String) (steps : List StoreStep)
  | conclude (name : Option String) (result : StoreResult)
  deriving Inhabited

/-- What a frame costs: a listener that is told may begin its reaction. -/
def StoreFrame.cost : StoreFrame → Nat
  | .tell _ _ => 2
  | _ => 1

def StoreFrame.steps : StoreFrame → Nat
  | .take _ steps => StoreStep.sizes steps
  | _ => 0

def Script.steps (script : Script) : Nat :=
  match script.reaction with
  | some steps => StoreStep.sizes steps
  | none => 0

/-- The reaction of a script that is told of a key, if it is its turn. -/
def Script.reactionTo? (script : Script) (key : String) : Option (List StoreStep) :=
  match script.awaited with
  | none => script.reaction
  | some awaited => if awaited = key then script.reaction else none

namespace StoreSession

def pendingSteps (session : StoreSession) : Nat := total Script.steps session.scripts

def tellings (listeners : List Listener) (key : String) : List StoreFrame :=
  listeners.map fun listener => .tell listener key

def write (session : StoreSession) (key : String) (value : Option Preference)
    (success : StoreResult) : List StoreFrame × StoreResult × StoreSession :=
  let written := session.store.put session.disk key value
  let after := { session with store := written.store, disk := written.disk }
  match written.outcome with
  | .ok listeners => (tellings listeners key, success, after)
  | .error fault => ([], .failed fault, after)

def reading {β : Type} (wrap : β → Preference) (outcome : Except PreferenceFault (Option β)) :
    StoreResult :=
  match outcome with
  | .ok value => .found (value.map wrap)
  | .error fault => .failed fault

def pathIn (session : StoreSession) (path : String) : Path :=
  let written := Path.ofText path
  { written with names := session.directory ++ written.names }

def inspection (session : StoreSession) : StoreResult :=
  match session.store.backing with
  | .memory => .senseless
  | .file path =>
      let paths := session.disk.list session.directory
      match session.disk.find (.ofText path) with
      | .ok (_, .file bytes mode) =>
          .inspected (some (Text.decodeUtf8Lenient bytes)) (some mode) paths
      | _ => .inspected none none paths

def perform (session : StoreSession) :
    StoreStep → List StoreFrame × StoreResult × StoreSession
  | .get key => ([], .found (session.store.get? key), session)
  | .getBoolean key => ([], reading .boolean (session.store.getBoolean key), session)
  | .getText key => ([], reading .text (session.store.getText key), session)
  | .put key value => session.write key value .written
  | .installationId =>
      match session.store.installationId? with
      | .error fault => ([], .failed fault, session)
      | .ok (some id) => ([], .identified id, session)
      | .ok none =>
          let id := drawnIdentifier session.draws
          { session with draws := session.draws + 1 }.write installationKey (some (.text id))
            (.identified id)
  | .subscribe name awaited reaction =>
      let number := session.store.listeners.next
      ([], .subscribed number,
        { session with
          store := session.store.subscribe (.scripted session.scripts.length)
          scripts := session.scripts ++ [⟨name, awaited, some reaction⟩]
          numbers := session.numbers ++ [number] })
  | .unsubscribe index =>
      match session.numbers[index]? with
      | none => ([], .senseless, session)
      | some number =>
          ([], .unsubscribed (session.store.listeners.holds number),
            { session with store := session.store.unsubscribe number })
  | .reopen =>
      match session.store.backing with
      | .memory => ([], .senseless, session)
      | .file path =>
          match Store.openFile session.disk path with
          | .ok store => ([], .reopened, { session with store })
          | .error fault => ([], .failed fault, session)
  | .inspect => ([], session.inspection, session)
  | .place path entry =>
      match session.store.backing, entry with
      | .memory, _ => ([], .senseless, session)
      | _, none => ([], .rearranged, session)
      | _, some found =>
          match session.disk.place? (session.pathIn path) found with
          | some disk => ([], .rearranged, { session with disk })
          | none => ([], .misplaced, session)
  | .discard path =>
      match session.store.backing with
      | .memory => ([], .senseless, session)
      | .file _ =>
          ([], .rearranged, { session with disk := session.disk.discard (session.pathIn path) })
  | .pause => ([], .senseless, session)
  | .senseless => ([], .senseless, session)

def tell (session : StoreSession) (index : Nat) (key : String) :
    List StoreFrame × StoreSession :=
  match session.scripts[index]? with
  | none => ([], session)
  | some script =>
      let noted := { session with notes := session.notes ++ [.told script.name key] }
      match script.reactionTo? key with
      | none => ([], noted)
      | some steps =>
          let parts := StoreStep.split steps
          ([.take (some script.name) parts.1],
            { noted with
              scripts := session.scripts.set index { script with reaction := parts.2 } })

def step (session : StoreSession) : StoreFrame → List StoreFrame × StoreSession
  | .tell (.scripted index) key => session.tell index key
  | .tell .service key =>
      ([], if key = optInKey then { session with deadlocked := true } else session)
  | .take _ [] => ([], session)
  | .take name (next :: rest) =>
      let performed := session.perform next
      (performed.1 ++ [.conclude name performed.2.1, .take name rest], performed.2.2)
  | .conclude (some name) result =>
      ([], { session with notes := session.notes ++ [.stepped name result] })
  | .conclude none result => ([], { session with result })

end StoreSession

end Telemetry
