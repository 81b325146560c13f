import Telemetry.Json.Basic
import Telemetry.Settings.Fault
/-!
Where configuration and preferences are kept.

The user's directories come from the environment; without a word there they lie in the home
directory.
-/

namespace Telemetry

open Telemetry.Text

structure Environment where
  bindings : List (String × String) := []
  accountHome : Option String := none
  deriving DecidableEq, Repr, Inhabited

/-- The value of a variable; a later entry for the same variable counts. -/
def Environment.get? (environment : Environment) (name : String) : Option String :=
  (environment.bindings.reverse.find? (·.1 == name)).map (·.2)

/-- The home directory: the variable `HOME` unless it is unset or empty. -/
def Environment.home? (environment : Environment) : Option String :=
  match environment.get? "HOME" with
  | some home => if home = "" then environment.accountHome else some home
  | none => environment.accountHome

/-- A path inside a directory.  An absolute path stands for itself. -/
def joinPath (directory path : String) : String :=
  if path.toList.head? = some '/' then path
  else if directory = "" ∨ directory.toList.getLast? = some '/' then directory ++ path
  else directory ++ "/" ++ path

structure Paths where
  userConfig : String
  systemConfig : String
  preferences : String
  deriving DecidableEq, Repr, Inhabited

def libraryDirectory : String := "usage-analytics"

def libraryFile (directory name : String) : String :=
  joinPath (joinPath directory libraryDirectory) name

/-- The places as they are written when nothing is known of the environment. -/
def Paths.standard : Paths where
  userConfig := libraryFile "~/.config" "config.toml"
  systemConfig := libraryFile "/etc" "config.toml"
  preferences := libraryFile "~/.local/state" "preferences.toml"

/-- The places in an environment: in the directories that `XDG_CONFIG_HOME` and
`XDG_STATE_HOME` name, as they are written there, or else in the home directory. -/
def Paths.resolve (environment : Environment) : Except SettingsFault Paths :=
  match environment.home? with
  | none => .error .noHome
  | some home =>
      let config := (environment.get? "XDG_CONFIG_HOME").getD (joinPath home ".config")
      let state := (environment.get? "XDG_STATE_HOME").getD (joinPath home ".local/state")
      .ok
        { userConfig := libraryFile config "config.toml"
          systemConfig := libraryFile "/etc" "config.toml"
          preferences := libraryFile state "preferences.toml" }

def Paths.toJson (paths : Paths) : Json :=
  .object
    [("user", paths.userConfig), ("system", paths.systemConfig),
      ("preferences", paths.preferences)]

instance : ToJson Paths := ⟨Paths.toJson⟩

end Telemetry
