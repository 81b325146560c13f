import Telemetry.Settings.Source
/-!
Where a running application gets its settings.

Settings are loaded again each time that a client is built, so they may have changed since.
-/

namespace Telemetry

inductive SettingsSupply where
  /-- Settings that are at hand; they are checked at each load. -/
  | fixed (settings : Settings)
  | failing (fault : SettingsFault)
  | layered (list : SourceList) (paths : Paths)
  /-- A supply that answers the coming loads in its own way, and then as another one does. -/
  | varying (answers : List (Except SettingsFault Settings)) (others : SettingsSupply)

def SettingsSupply.ofEnvironment (environment : Environment) :
    Except SettingsFault SettingsSupply := do
  let paths ← Paths.resolve environment
  return .layered (.standard paths environment.bindings) paths

def SettingsSupply.load (supply : SettingsSupply) (disk : Disk) :
    Except SettingsFault Settings × List LogEvent :=
  match supply with
  | .fixed settings => (settings.validate.map fun _ => settings, [])
  | .failing fault => (.error fault, [])
  | .layered list paths => list.load disk paths
  | .varying (answer :: _) _ => (answer, [])
  | .varying [] others => others.load disk

def SettingsSupply.afterLoad : SettingsSupply → SettingsSupply
  | .varying (_ :: answers) others => .varying answers others
  | .varying [] others => others.afterLoad
  | supply => supply

end Telemetry
