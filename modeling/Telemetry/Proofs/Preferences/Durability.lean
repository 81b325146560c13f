import Telemetry.Proofs.Disk.Replacement
import Telemetry.Proofs.Preferences.Conduct
import Telemetry.Proofs.Preferences.Filing
import Telemetry.Proofs.Preferences.Writing

/-! A store in a file beside the file. After every write, whatever became of it, the file holds what
the store holds, so that a store that is opened anew answers like the one that wrote. -/

namespace Telemetry

open Telemetry.Text

namespace Store

variable {α : Type} {disk other : Disk} {path : String} {store : Store α}

theorem openFile_congr (same : other.target? (.ofText path) = disk.target? (.ofText path)) :
    (openFile other path : Except PreferenceFault (Store α)) = openFile disk path := by
  unfold openFile Disk.readText Disk.readBytes
  rw [Disk.reaches_eq, Disk.reaches_eq, same]
  cases leads : disk.target? (.ofText path) with
  | none => rfl
  | some found =>
      obtain ⟨place, entry⟩ := found
      rw [leads] at same
      rw [Disk.target?_eq_some.mp leads, Disk.target?_eq_some.mp same]

theorem openFile_vacant (vacant : disk.reaches (.ofText path) = false) :
    (openFile disk path : Except PreferenceFault (Store α)) = .ok { backing := .file path } := by
  unfold openFile
  rw [vacant]
  rfl

theorem openFile_written {values : Values} (ascending : values.Ascending) {place : Place}
    {mode : Nat}
    (found : disk.find (.ofText path) = .ok (place, .file (encodeUtf8 values.write) mode)) :
    (openFile disk path : Except PreferenceFault (Store α)) =
      .ok { values, backing := .file path } := by
  have reached : disk.reaches (.ofText path) = true := by
    rw [Disk.reaches, found]
  have contents : disk.readText (.ofText path) = .ok values.write := by
    simp only [Disk.readText, Disk.readBytes, found, bind, Except.bind, pure, Except.pure,
      decodeUtf8?_encodeUtf8]
  have told : (Except.ok values.write : Except DiskFault String).mapError PreferenceFault.disk =
      .ok values.write := rfl
  unfold openFile
  rw [if_pos reached, contents, told]
  simp only [bind, Except.bind, Values.read?_write ascending]
  rfl

theorem openFile_eq_ok (opened : openFile disk path = .ok store) :
    store = { values := store.values, backing := .file path } ∧ store.values.Ascending := by
  unfold openFile at opened
  simp only [bind, Except.bind, pure, Except.pure] at opened
  split at opened
  · split at opened
    · cases opened
    · split at opened
      · rename_i values read
        cases opened
        exact ⟨rfl, Values.ascending_read? read⟩
      · cases opened
  · cases opened
    exact ⟨rfl, List.Pairwise.nil⟩

/-- The file holds what the store holds, and it will not be something else that the path leads to
once directories have been made. -/
structure Durable (store : Store α) (disk : Disk) (path : String) : Prop where
  backing : store.backing = .file path
  ascending : store.values.Ascending
  reopens : (openFile disk path : Except PreferenceFault (Store α)) =
    .ok { values := store.values, backing := .file path }
  hides : disk.HidesNothing (.ofText path)

theorem durable_openFile (opened : openFile disk path = .ok store)
    (hides : disk.HidesNothing (.ofText path)) : store.Durable disk path := by
  obtain ⟨same, ascending⟩ := openFile_eq_ok opened
  refine ⟨?_, ascending, ?_, hides⟩
  · rw [same]
  · rw [← same]
    exact opened

theorem Durable.put (durable : store.Durable disk path)
    (ending : (Path.ofText path).extension? ≠ some "tmp") (key : String)
    (value : Option Preference) :
    (store.put disk key value).store.Durable (store.put disk key value).disk path ∧
      ∀ fault, (store.put disk key value).outcome = .error fault →
        (store.put disk key value).disk.target? (.ofText path) =
          disk.target? (.ofText path) := by
  by_cases same : store.get? key = value
  · rw [store.put_same disk same]
    exact ⟨durable, fun _ _ => rfl⟩
  · have sorted := durable.ascending.put key value
    unfold Store.put
    rw [if_neg same]
    simp only [durable.backing]
    rcases Disk.replaceFile_cases durable.hides ending (store.values.put key value).write with
      ⟨fault, after, failed, target, hides⟩ | ⟨after, place, replaced, found⟩
    · rw [failed]
      refine ⟨⟨durable.backing, durable.ascending, ?_, hides⟩, fun _ _ => target⟩
      rw [openFile_congr target]
      exact durable.reopens
    · rw [replaced]
      refine ⟨⟨rfl, sorted, openFile_written sorted found, ?_⟩, ?_⟩
      · apply Disk.hidesNothing_of_reaches
        rw [Disk.reaches, found]
      · intro fault impossible
        cases impossible

end Store

def StoreStep.LeavesDisk : StoreStep → Prop
  | .place _ _ | .discard _ => False
  | _ => True

namespace StoreSession

variable {session : StoreSession} {path : String}

def Durable (path : String) (session : StoreSession) : Prop :=
  session.store.Durable session.disk path

theorem Durable.write (durable : session.Durable path)
    (ending : (Path.ofText path).extension? ≠ some "tmp") (key : String)
    (value : Option Preference) (success : StoreResult) :
    (session.write key value success).2.2.Durable path := by
  have kept := (Store.Durable.put durable ending key value).1
  unfold StoreSession.write
  dsimp only
  split
  · exact kept
  · exact kept

theorem Durable.listening (durable : session.Durable path) (listeners : Registry Listener)
    (scripts : List Script) (numbers : List Nat) :
    Durable path { session with
      store := { session.store with listeners }
      scripts
      numbers } :=
  ⟨durable.backing, durable.ascending, durable.reopens, durable.hides⟩

theorem Durable.perform (durable : session.Durable path)
    (ending : (Path.ofText path).extension? ≠ some "tmp") {next : StoreStep}
    (stays : next.staysOpen = true) (leaves : next.LeavesDisk) :
    (session.perform next).2.2.Durable path := by
  cases next with
  | put key value => exact durable.write ending key value .written
  | installationId =>
      unfold StoreSession.perform
      dsimp only
      split
      · exact durable
      · exact durable
      · have drawn : Durable path { session with draws := session.draws + 1 } := durable
        exact drawn.write ending _ _ _
  | subscribe name awaited reaction => exact durable.listening _ _ _
  | unsubscribe index =>
      unfold StoreSession.perform
      dsimp only
      split
      · exact durable
      · exact durable.listening _ _ _
  | reopen => cases stays
  | place path entry => cases leaves
  | discard path => cases leaves
  | _ => exact durable

theorem Durable.step (durable : session.Durable path)
    (ending : (Path.ofText path).extension? ≠ some "tmp") {frame : StoreFrame}
    (fits : Fits (StoreStep.Keeps StoreStep.LeavesDisk) frame) :
    (session.step frame).2.Durable path := by
  rcases session.step_cases frame with
    ⟨name, next, rest, rfl, after⟩ | ⟨notes, scripts, deadlocked, result, after⟩
  · rw [after]
    have allowed := fits next List.mem_cons_self
    exact durable.perform ending allowed.1 allowed.2.own
  · rw [after]
    exact durable

/-- Whatever is asked of a store in a file, and whichever of its writes fail: opening the file
again gives the same preferences, and a write that fails leaves what the path leads to. -/
theorem reopening_gives_the_same
    (opened : Store.openFile session.disk path = .ok session.store)
    (hides : session.disk.HidesNothing (.ofText path))
    (ending : (Path.ofText path).extension? ≠ some "tmp")
    (obeys : session.Obeys (StoreStep.Keeps StoreStep.LeavesDisk)) {steps : List StoreStep}
    (suits : ∀ step ∈ steps, step.Keeps StoreStep.LeavesDisk) :
    let after := session.run [.take none steps]
    (∃ fresh : Store Listener, Store.openFile after.disk path = .ok fresh ∧
        ∀ key, fresh.get? key = after.store.get? key) ∧
      ∀ key value fault, (after.store.put after.disk key value).outcome = .error fault →
        (after.store.put after.disk key value).disk.target? (.ofText path) =
          after.disk.target? (.ofText path) := by
  intro after
  have start : session.Durable path := Store.durable_openFile opened hides
  have agenda : ∀ frame ∈ [StoreFrame.take none steps],
      Fits (StoreStep.Keeps StoreStep.LeavesDisk) frame := by
    intro frame member
    rw [List.mem_singleton.mp member]
    exact suits
  have durable : after.Durable path :=
    (obeys.run StoreStep.isConduct_keeps (Durable path)
      (fun _ _ fits durable => durable.step ending fits) agenda start).1
  exact ⟨⟨_, durable.reopens, fun _ => rfl⟩, fun key value => (durable.put ending key value).2⟩

/-- A store in a file that is not there yet, nor is its directory, on a disk that writes five bytes of
the temporary file once and refuses to move it once. -/
def stubborn : StoreSession :=
  { store.backing := .file "/home/preferences.toml"
    disk.answers := [.allowed, .torn 5, .allowed, .refused] }

def stubbornSteps : List StoreStep :=
  [.put "a" (some (.boolean true)), .put "b" (some (.text "\"\n")), .put "ä" (some (.text "x")),
    .put "a" none]

theorem reopening_gives_the_same_stubborn :
    let after := stubborn.run [.take none stubbornSteps]
    after.store.get? "a" = none ∧ after.store.get? "ä" = some (.text "x") ∧
      ∃ fresh : Store Listener, Store.openFile after.disk "/home/preferences.toml" = .ok fresh ∧
        ∀ key, fresh.get? key = after.store.get? key := by
  have opened : Store.openFile stubborn.disk "/home/preferences.toml" = .ok stubborn.store :=
    Store.openFile_vacant (by decide +kernel)
  have suits : ∀ step ∈ stubbornSteps, step.Keeps StoreStep.LeavesDisk := by
    simp [stubbornSteps, StoreStep.Keeps, StoreStep.staysOpen, StoreStep.Wholly,
      StoreStep.LeavesDisk]
  exact ⟨by decide +kernel, by decide +kernel,
    (reopening_gives_the_same opened
      (Disk.hidesNothing_of_down (Disk.isTree_blank _) (by decide +kernel)) (by decide +kernel)
      (List.forall_mem_nil _) suits).1⟩

/-- Where a path goes up out of a directory that is not there, making that directory may bring
something to light: here the directory itself, which then stands where the file should be. -/
theorem hidden_directory_stops_reopening :
    let store : Store Listener := { backing := .file "x/../x" }
    Store.openFile {} "x/../x" = .ok store ∧ (Path.ofText "x/../x").extension? ≠ some "tmp" ∧
      ¬ ∃ fresh : Store Listener,
        Store.openFile (store.put {} "a" (some (.boolean true))).disk "x/../x" = .ok fresh := by
  refine ⟨Store.openFile_vacant (by decide +kernel), by decide +kernel, ?_⟩
  rintro ⟨fresh, opened⟩
  have fails : (Store.openFile (({ backing := .file "x/../x" } : Store Listener).put {} "a"
      (some (.boolean true))).disk "x/../x" : Except _ (Store Listener)).isOk = false := by
    decide +kernel
  rw [opened] at fails
  cases fails

end StoreSession

end Telemetry
