import Telemetry.Disk.Access
import Telemetry.Log
import Telemetry.Settings.Basic
import Telemetry.Settings.Variables
import Telemetry.Toml.Reader
/-!
Sources of configuration, and the settings that they make up together.

Sources are merged in the order of their precedence; of two sources with the same precedence the
one that was registered later wins.  A source that fails is left out with a warning.
-/

namespace Telemetry

inductive Precedence where
  | defaults
  | systemFile
  | userFile
  | environment
  | explicit
  deriving DecidableEq, Repr, Inhabited

/-- Precedences as numbers; the greater one wins. -/
def Precedence.rank : Precedence → Nat
  | .defaults => 10
  | .systemFile => 20
  | .userFile => 30
  | .environment => 50
  | .explicit => 60

inductive Source where
  /-- The built-in source; default values are filled in when settings are resolved. -/
  | defaults
  | file (path : String) (precedence : Precedence) (name : String)
  | environment (bindings : List (String × String))
  | given (name : String) (precedence : Precedence) (outcome : Except SettingsFault Layer)

namespace Source

def systemFile (paths : Paths) : Source := .file paths.systemConfig .systemFile "system-config"

def userFile (paths : Paths) : Source := .file paths.userConfig .userFile "user-config"

def name : Source → String
  | .defaults => "defaults"
  | .file _ _ name => name
  | .environment _ => "environment"
  | .given name _ _ => name

def precedence : Source → Precedence
  | .defaults => .defaults
  | .file _ precedence _ => precedence
  | .environment _ => .environment
  | .given _ precedence _ => precedence

end Source

def Layer.ofFile (disk : Disk) (path : String) : Except SettingsFault Layer := do
  let text ← (disk.readText (.ofText path)).mapError .disk
  match Toml.read? text with
  | none => .error (.document path)
  | some entries =>
      (Layer.decode Toml.format (.table entries)).mapError fun _ => .document path

/-- The layer of a source.  A file that is not there sets nothing. -/
def Source.load (disk : Disk) : Source → Except SettingsFault Layer
  | .defaults => .ok Layer.empty
  | .file path _ _ =>
      if disk.reaches (.ofText path) then Layer.ofFile disk path else .ok Layer.empty
  | .environment bindings => Layer.ofVariables bindings
  | .given _ _ outcome => outcome

/-- The sources of an application, in the order in which they were registered. -/
structure SourceList where
  sources : List Source := []

namespace SourceList

def register (list : SourceList) (source : Source) : SourceList :=
  ⟨list.sources ++ [source]⟩

def sorted (list : SourceList) : List Source :=
  list.sources.mergeSort fun first second => first.precedence.rank ≤ second.precedence.rank

def mergeSource (disk : Disk) (state : Layer × List LogEvent) (source : Source) :
    Layer × List LogEvent :=
  match source.load disk with
  | .ok layer => (state.1.merge layer, state.2)
  | .error _ => (state.1, state.2 ++ [.sourceSkipped source.name])

def layer (list : SourceList) (disk : Disk) : Layer × List LogEvent :=
  list.sorted.foldl (mergeSource disk) (Layer.empty, [])

def loadBy (parseUrl : String → Except Url.Fault Url) (list : SourceList) (disk : Disk)
    (paths : Paths) : Except SettingsFault Settings × List LogEvent :=
  let (layer, log) := list.layer disk
  let outcome := do
    let settings ← Settings.ofLayer layer paths
    (settings.check parseUrl).mapError .invalid
    return settings
  (outcome, log)

def load (list : SourceList) (disk : Disk) (paths : Paths) :
    Except SettingsFault Settings × List LogEvent :=
  list.loadBy Url.parse disk paths

/-- The usual sources: defaults, the machine's file, the user's file, the environment. -/
def standard (paths : Paths) (bindings : List (String × String)) : SourceList :=
  ⟨[.defaults, .systemFile paths, .userFile paths, .environment bindings]⟩

end SourceList

def Settings.fromEnvironment (disk : Disk) (environment : Environment) :
    Except SettingsFault Settings × List LogEvent :=
  match Paths.resolve environment with
  | .error fault => (.error fault, [])
  | .ok paths => (SourceList.standard paths environment.bindings).load disk paths

end Telemetry
