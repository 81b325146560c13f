import Mathlib.Data.List.Basic
import Mathlib.Tactic.ByContra
import Telemetry.Proofs.Preferences.Durability
import Telemetry.Proofs.Text.Split
import Telemetry.Service.Basic

/-! Where configuration and preferences lie. By the rules for base directories a variable counts only
if it holds an absolute path. The places are made of whatever the variables hold, so they keep to the
rules exactly where nothing else is held; and exactly there they are the same for a process in any
working directory. -/

namespace Telemetry

open Telemetry.Text

/-! ### Paths -/

def IsAbsolutePath (path : String) : Prop := path.toList.head? = some '/'

instance : DecidablePred IsAbsolutePath := fun path =>
  inferInstanceAs (Decidable (path.toList.head? = some '/'))

variable {directory path name : String}

theorem joinPath_absolute (absolute : IsAbsolutePath path) : joinPath directory path = path :=
  if_pos absolute

theorem joinPath_relative (relative : ¬IsAbsolutePath path) :
    joinPath directory path =
      if directory = "" ∨ directory.toList.getLast? = some '/' then directory ++ path
      else directory ++ "/" ++ path :=
  if_neg relative

theorem isAbsolutePath_joinPath (relative : ¬IsAbsolutePath path) :
    IsAbsolutePath (joinPath directory path) ↔ IsAbsolutePath directory := by
  rw [joinPath_relative relative]
  cases characters : directory.toList with
  | nil =>
      obtain rfl := String.toList_eq_nil_iff.mp characters
      rw [if_pos (.inl rfl), String.empty_append]
      exact iff_of_false relative (by decide)
  | cons first rest =>
      unfold IsAbsolutePath
      split
      · rw [String.toList_append, characters]
        exact Iff.rfl
      · rw [String.toList_append, String.toList_append, characters]
        exact Iff.rfl

theorem names_slash {text : String} (before after : String)
    (written : text.toList = before.toList ++ '/' :: after.toList) :
    (Path.ofText text).names = (Path.ofText before).names ++ (Path.ofText after).names := by
  unfold Path.ofText
  dsimp only
  rw [written, splitAll_parts, List.filter_append, List.map_append]

theorem names_joinPath (relative : ¬IsAbsolutePath path) :
    (Path.ofText (joinPath directory path)).names =
      (Path.ofText directory).names ++ (Path.ofText path).names := by
  rw [joinPath_relative relative]
  by_cases empty : directory = ""
  · rw [if_pos (.inl empty), empty, String.empty_append]
    rfl
  by_cases slash : directory.toList.getLast? = some '/'
  · obtain ⟨front, same⟩ := List.getLast?_eq_some_iff.mp slash
    have before : (Path.ofText directory).names = (Path.ofText (String.ofList front)).names := by
      rw [names_slash (String.ofList front) "", List.append_right_eq_self]
      · rfl
      · rw [same, String.toList_ofList]
        rfl
    rw [if_pos (.inr slash), before, names_slash (String.ofList front) path]
    rw [String.toList_append, same, String.toList_ofList, List.append_assoc, List.singleton_append]
  · rw [if_neg (not_or.mpr ⟨empty, slash⟩), names_slash directory path]
    rw [String.toList_append, String.toList_append, List.append_assoc]
    rfl

/-! ### Working directories -/

def pathFrom (directory path : String) : Path := .ofText (joinPath directory path)

/-- The path stands for the same in every working directory. -/
def IsFixedPath (path : String) : Prop :=
  ∀ one other, IsAbsolutePath one → IsAbsolutePath other → pathFrom one path = pathFrom other path

theorem isFixedPath_iff : IsFixedPath path ↔ IsAbsolutePath path := by
  constructor
  · intro fixed
    by_contra relative
    have same := congrArg Path.names (fixed "/" "/x" (by decide) (by decide))
    unfold pathFrom at same
    rw [names_joinPath relative, names_joinPath relative] at same
    have lengths := congrArg List.length same
    have root : (Path.ofText "/").names = [] := rfl
    have below : (Path.ofText "/x").names = ["x"] := rfl
    rw [root, below, List.length_append, List.length_append] at lengths
    simp only [List.length_nil, List.length_singleton] at lengths
    omega
  · intro absolute one other _ _
    unfold pathFrom
    rw [joinPath_absolute absolute, joinPath_absolute absolute]

/-! ### Base directories -/

namespace Environment

/-- The directory for a purpose by the rules: the one that the variable names by an absolute path,
or else the usual one. -/
def baseDirectory (environment : Environment) (variableName usual : String) : String :=
  match environment.get? variableName with
  | some directory => if IsAbsolutePath directory then directory else usual
  | none => usual

/-- The variable is unset, or it holds an absolute path. -/
def Conforms (environment : Environment) (variableName : String) : Prop :=
  ∀ directory, environment.get? variableName = some directory → IsAbsolutePath directory

def namedDirectory (environment : Environment) (variableName usual : String) : String :=
  (environment.get? variableName).getD usual

variable {environment : Environment} {variableName usual : String}

theorem isAbsolutePath_baseDirectory (rooted : IsAbsolutePath usual) :
    IsAbsolutePath (environment.baseDirectory variableName usual) := by
  unfold baseDirectory
  split
  · split
    · assumption
    · exact rooted
  · exact rooted

theorem isAbsolutePath_namedDirectory (rooted : IsAbsolutePath usual) :
    IsAbsolutePath (environment.namedDirectory variableName usual) ↔
      environment.Conforms variableName := by
  unfold namedDirectory Conforms
  cases held : environment.get? variableName with
  | none =>
      refine iff_of_true rooted fun directory same => ?_
      cases same
  | some directory =>
      constructor
      · intro absolute other same
        cases same
        exact absolute
      · intro conforms
        exact conforms directory rfl

theorem namedDirectory_eq (conforms : environment.Conforms variableName) :
    environment.namedDirectory variableName usual =
      environment.baseDirectory variableName usual := by
  unfold namedDirectory baseDirectory
  cases held : environment.get? variableName with
  | none => rfl
  | some directory => exact (if_pos (conforms directory held)).symm

end Environment

/-- The file is the one of the given name in the library's part of a directory. -/
structure LiesIn (file directory name : String) : Prop where
  absolute : IsAbsolutePath file
  names : (Path.ofText file).names = (Path.ofText directory).names ++ [libraryDirectory, name]

theorem isAbsolutePath_libraryFile (relative : ¬IsAbsolutePath name) :
    IsAbsolutePath (libraryFile directory name) ↔ IsAbsolutePath directory := by
  unfold libraryFile
  rw [isAbsolutePath_joinPath relative, isAbsolutePath_joinPath (by decide)]

theorem liesIn_libraryFile (relative : ¬IsAbsolutePath name)
    (single : (Path.ofText name).names = [name]) (absolute : IsAbsolutePath directory) :
    LiesIn (libraryFile directory name) directory name := by
  refine ⟨(isAbsolutePath_libraryFile relative).mpr absolute, ?_⟩
  have library : (Path.ofText libraryDirectory).names = [libraryDirectory] := rfl
  unfold libraryFile
  rw [names_joinPath relative, names_joinPath (by decide), single, library, List.append_assoc]
  rfl

/-- A file lies where the rules want it exactly when the variable keeps to them. -/
theorem liesIn_named_iff {environment : Environment} {variableName usual : String}
    (rooted : IsAbsolutePath usual) (relative : ¬IsAbsolutePath name)
    (single : (Path.ofText name).names = [name]) :
    LiesIn (libraryFile (environment.namedDirectory variableName usual) name)
        (environment.baseDirectory variableName usual) name ↔
      environment.Conforms variableName := by
  constructor
  · intro lies
    exact (Environment.isAbsolutePath_namedDirectory rooted).mp
      ((isAbsolutePath_libraryFile relative).mp lies.absolute)
  · intro conforms
    rw [Environment.namedDirectory_eq conforms]
    exact liesIn_libraryFile relative single (Environment.isAbsolutePath_baseDirectory rooted)

/-! ### What is opened -/

def Source.file? : Source → Option String
  | .file path _ _ => some path
  | _ => none

def SourceList.files (list : SourceList) : List String := list.sources.filterMap Source.file?

section Reading

variable {disk other : Disk}

theorem Source.load_congr {source : Source}
    (same : ∀ file, source.file? = some file →
      other.target? (.ofText file) = disk.target? (.ofText file)) :
    source.load other = source.load disk := by
  cases source with
  | file path precedence name =>
      have alike := same path rfl
      unfold Source.load Layer.ofFile Disk.readText Disk.readBytes
      dsimp only
      rw [Disk.reaches_eq, Disk.reaches_eq, alike]
      cases leads : disk.target? (.ofText path) with
      | none => rfl
      | some found =>
          rw [leads] at alike
          rw [Disk.target?_eq_some.mp leads, Disk.target?_eq_some.mp alike]
  | _ => rfl

theorem SourceList.load_files {list : SourceList}
    (same : ∀ file ∈ list.files, other.target? (.ofText file) = disk.target? (.ofText file))
    (paths : Paths) : list.load other paths = list.load disk paths := by
  have merged : ∀ state, ∀ source ∈ list.sorted,
      mergeSource other state source = mergeSource disk state source := by
    intro state source among
    have listed : source ∈ list.sources := List.mem_mergeSort.mp among
    unfold mergeSource
    rw [Source.load_congr fun file reads =>
      same file (List.mem_filterMap.mpr ⟨source, listed, reads⟩)]
  have layers : list.layer other = list.layer disk := by
    unfold layer
    exact List.foldl_ext _ _ _ merged
  unfold load loadBy
  rw [layers]

end Reading

/-! ### The places of an environment -/

/-- What a start in the environment opens: two files for the settings, which depend on nothing else
of the disk, and one for the preferences. -/
structure Paths.Opened (paths : Paths) (environment : Environment) : Prop where
  supply : SettingsSupply.ofEnvironment environment =
    .ok (.layered (.standard paths environment.bindings) paths)
  settings : (SourceList.standard paths environment.bindings).files =
    [paths.systemConfig, paths.userConfig]
  loaded : ∀ disk other : Disk,
    (∀ file ∈ [paths.systemConfig, paths.userConfig],
      other.target? (.ofText file) = disk.target? (.ofText file)) →
    Settings.fromEnvironment other environment = Settings.fromEnvironment disk environment
  opened : ∀ (parts : ServiceParts) (disk other : Disk), parts.store = none →
    other.target? (.ofText paths.preferences) = disk.target? (.ofText paths.preferences) →
    parts.openStore environment other = parts.openStore environment disk
  backing : ∀ (parts : ServiceParts) (disk : Disk) (store : Store Listener), parts.store = none →
    parts.openStore environment disk = .ok store → store.backing = .file paths.preferences

theorem Paths.opened_of_resolve {environment : Environment} {paths : Paths}
    (resolved : Paths.resolve environment = .ok paths) : paths.Opened environment where
  supply := by
    unfold SettingsSupply.ofEnvironment
    rw [resolved]
    rfl
  settings := rfl
  loaded := by
    intro disk other same
    unfold Settings.fromEnvironment
    rw [resolved]
    change (SourceList.standard paths environment.bindings).load other paths = _
    apply SourceList.load_files
    exact same
  opened := by
    intro parts disk other none same
    unfold ServiceParts.openStore
    rw [none, resolved]
    exact congrArg (Except.mapError ServiceError.preferences) (Store.openFile_congr same)
  backing := by
    intro parts disk store none found
    unfold ServiceParts.openStore at found
    rw [none, resolved] at found
    change (Store.openFile disk paths.preferences).mapError ServiceError.preferences =
      .ok store at found
    cases opening : (Store.openFile disk paths.preferences : Except _ (Store Listener)) with
    | error fault =>
        rw [opening] at found
        cases found
    | ok other =>
        rw [opening] at found
        cases found
        rw [(Store.openFile_eq_ok opening).1]

theorem Environment.home?_eq {environment : Environment} {home : String}
    (homed : environment.get? "HOME" = some home) (rooted : IsAbsolutePath home) :
    environment.home? = some home := by
  have written : home ≠ "" := by
    rintro rfl
    exact absurd rooted (by decide)
  unfold home?
  rw [homed]
  exact if_neg written

/-- The places are found for every home directory that is named by an absolute path. The user's file
for settings lies where the rules for base directories want it exactly when the variable for such
files is unset or holds an absolute path, and so does the file for preferences. These are the files
that are opened; all of them have absolute paths, and stand for the same in every working directory,
exactly when both variables keep to the rules. -/
theorem Paths.resolve_conforms_iff (environment : Environment) {home : String}
    (homed : environment.get? "HOME" = some home) (rooted : IsAbsolutePath home) :
    ∃ paths, Paths.resolve environment = .ok paths ∧ paths.Opened environment ∧
      paths.systemConfig = "/etc/usage-analytics/config.toml" ∧
      paths.userConfig =
        libraryFile (environment.namedDirectory "XDG_CONFIG_HOME" (joinPath home ".config"))
          "config.toml" ∧
      paths.preferences =
        libraryFile (environment.namedDirectory "XDG_STATE_HOME" (joinPath home ".local/state"))
          "preferences.toml" ∧
      (LiesIn paths.userConfig
          (environment.baseDirectory "XDG_CONFIG_HOME" (joinPath home ".config")) "config.toml" ↔
        environment.Conforms "XDG_CONFIG_HOME") ∧
      (LiesIn paths.preferences
          (environment.baseDirectory "XDG_STATE_HOME" (joinPath home ".local/state"))
          "preferences.toml" ↔
        environment.Conforms "XDG_STATE_HOME") ∧
      ((∀ file ∈ [paths.systemConfig, paths.userConfig, paths.preferences],
          IsAbsolutePath file ∧ IsFixedPath file) ↔
        environment.Conforms "XDG_CONFIG_HOME" ∧ environment.Conforms "XDG_STATE_HOME") := by
  have config : IsAbsolutePath (joinPath home ".config") :=
    (isAbsolutePath_joinPath (by decide)).mpr rooted
  have state : IsAbsolutePath (joinPath home ".local/state") :=
    (isAbsolutePath_joinPath (by decide)).mpr rooted
  have resolved : Paths.resolve environment = .ok
      { userConfig :=
          libraryFile (environment.namedDirectory "XDG_CONFIG_HOME" (joinPath home ".config"))
            "config.toml"
        systemConfig := libraryFile "/etc" "config.toml"
        preferences :=
          libraryFile (environment.namedDirectory "XDG_STATE_HOME" (joinPath home ".local/state"))
            "preferences.toml" } := by
    unfold Paths.resolve
    rw [Environment.home?_eq homed rooted]
    rfl
  have system : libraryFile "/etc" "config.toml" = "/etc/usage-analytics/config.toml" := by decide
  have settingsFile : ¬IsAbsolutePath "config.toml" := by decide
  have preferencesFile : ¬IsAbsolutePath "preferences.toml" := by decide
  refine ⟨_, resolved, Paths.opened_of_resolve resolved, system, rfl, rfl,
    liesIn_named_iff config settingsFile rfl, liesIn_named_iff state preferencesFile rfl, ?_⟩
  simp only [isFixedPath_iff, and_self, List.forall_mem_cons, List.not_mem_nil, false_imp_iff,
    implies_true, and_true]
  have root : IsAbsolutePath "/etc" := by decide
  rw [isAbsolutePath_libraryFile settingsFile, isAbsolutePath_libraryFile settingsFile,
    isAbsolutePath_libraryFile preferencesFile, Environment.isAbsolutePath_namedDirectory config,
    Environment.isAbsolutePath_namedDirectory state]
  exact and_iff_right root

/-- Slashes and dots in what the variables hold, one of which is a relative path. -/
def Environment.mixed : Environment where
  bindings := [("HOME", "/home/user/"), ("XDG_CONFIG_HOME", "//c//"), ("XDG_STATE_HOME", "../up")]

theorem Paths.resolve_conforms_iff_mixed :
    Environment.mixed.get? "HOME" = some "/home/user/" ∧ IsAbsolutePath "/home/user/" ∧
      ∃ paths, Paths.resolve .mixed = .ok paths ∧ LiesIn paths.userConfig "//c//" "config.toml" ∧
        ¬LiesIn paths.preferences "/home/user/.local/state" "preferences.toml" := by
  have homed : Environment.mixed.get? "HOME" = some "/home/user/" := by decide
  have rooted : IsAbsolutePath "/home/user/" := by decide
  have config : Environment.mixed.Conforms "XDG_CONFIG_HOME" := by
    rintro directory held
    cases held
    decide
  have state : ¬Environment.mixed.Conforms "XDG_STATE_HOME" := by
    intro conforms
    exact absurd (conforms "../up" (by decide)) (by decide)
  obtain ⟨paths, resolved, _, _, _, _, user, preferences, _⟩ :=
    Paths.resolve_conforms_iff .mixed homed rooted
  exact ⟨homed, rooted, paths, resolved, user.mpr config, fun lies => state (preferences.mp lies)⟩

/-- An empty variable leads to a file below the working directory, not to one in the home
directory. -/
theorem Paths.resolve_astray :
    let environment : Environment := { bindings := [("HOME", "/home/user"), ("XDG_CONFIG_HOME", "")] }
    environment.baseDirectory "XDG_CONFIG_HOME" "/home/user/.config" = "/home/user/.config" ∧
      ∃ paths, Paths.resolve environment = .ok paths ∧
        paths.userConfig = "usage-analytics/config.toml" ∧ ¬IsAbsolutePath paths.userConfig ∧
        pathFrom "/one" paths.userConfig ≠ pathFrom "/other" paths.userConfig := by
  refine ⟨by decide, _, rfl, ?_, ?_, ?_⟩
  · decide
  · decide
  · decide

end Telemetry
