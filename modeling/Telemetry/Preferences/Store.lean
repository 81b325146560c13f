import Telemetry.Disk.Access
import Telemetry.Preferences.Values
import Telemetry.Registry
/-!
Stores of preferences with listeners.

A store keeps its preferences in memory or in a file.  A change is written to the file before it
becomes visible: to a temporary file beside the real one, which it then replaces.  If the writing
fails, nothing has changed.  Who has to be told about a change is part of the answer; the telling
itself happens elsewhere.
-/

namespace Telemetry

inductive Backing where
  | memory
  | file (path : String)
  deriving DecidableEq, Repr, Inhabited

structure Store (α : Type) where
  values : Values := []
  listeners : Registry α := .empty
  backing : Backing := .memory
  deriving Inhabited

namespace Store

variable {α : Type}

/-- Opens the store in a file.  A file that is not there holds no preferences. -/
def openFile (disk : Disk) (path : String) : Except PreferenceFault (Store α) := do
  if disk.reaches (.ofText path) then
    let contents ← (disk.readText (.ofText path)).mapError .disk
    match Values.read? contents with
    | some values => return { values, backing := .file path }
    | none => .error (.document path)
  else return { backing := .file path }

theorem size_openFile {disk : Disk} {path : String} {store : Store α}
    (opened : openFile disk path = .ok store) : store.listeners.size = 0 := by
  unfold openFile at opened
  simp only [bind, Except.bind, pure, Except.pure] at opened
  split at opened
  · split at opened
    · cases opened
    · split at opened
      · cases opened
        rfl
      · cases opened
  · cases opened
    rfl

def get? (store : Store α) (key : String) : Option Preference := store.values.get? key

def getBoolean (store : Store α) (key : String) : Except PreferenceFault (Option Bool) :=
  match store.get? key with
  | none => .ok none
  | some (.boolean value) => .ok (some value)
  | some (.text _) => .error (.otherKind key .boolean)

def getText (store : Store α) (key : String) : Except PreferenceFault (Option String) :=
  match store.get? key with
  | none => .ok none
  | some (.text value) => .ok (some value)
  | some (.boolean _) => .error (.otherKind key .text)

/-- What became of a write: the fault, or the listeners to tell in their order, with the store and
the disk after it. -/
structure Written (α : Type) where
  outcome : Except PreferenceFault (List α)
  store : Store α
  disk : Disk

/-- Stores a preference under a key, or removes it.  Listeners are told only of real changes. -/
def put (store : Store α) (disk : Disk) (key : String) (value : Option Preference) : Written α :=
  if store.get? key = value then ⟨.ok [], store, disk⟩
  else
    let changed := { store with values := store.values.put key value }
    match store.backing with
    | .memory => ⟨.ok store.listeners.items, changed, disk⟩
    | .file path =>
        match disk.replaceFile (.ofText path) changed.values.write with
        | (.error fault, after) => ⟨.error (.disk fault), store, after⟩
        | (.ok (), after) => ⟨.ok store.listeners.items, changed, after⟩

theorem put_cases (store : Store α) (disk : Disk) (key : String)
    (value : Option Preference) :
    (∃ outcome after, store.put disk key value = ⟨outcome, store, after⟩ ∧
        ∀ listeners, outcome = .ok listeners → listeners = []) ∨
      ∃ after, store.put disk key value =
        ⟨.ok store.listeners.items, { store with values := store.values.put key value }, after⟩ := by
  unfold put
  split
  · exact .inl ⟨.ok [], disk, rfl, fun _ same => (Except.ok.inj same).symm⟩
  · dsimp only
    split
    · exact .inr ⟨disk, rfl⟩
    · split
      · rename_i fault after _
        refine .inl ⟨.error (.disk fault), after, rfl, ?_⟩
        intro listeners same
        cases same
      · rename_i after _
        exact .inr ⟨after, rfl⟩

def subscribe (store : Store α) (listener : α) : Store α :=
  { store with listeners := store.listeners.add listener }

def unsubscribe (store : Store α) (number : Nat) : Store α :=
  { store with listeners := store.listeners.remove number }

end Store

end Telemetry
