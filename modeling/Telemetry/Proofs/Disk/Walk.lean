import Telemetry.Disk.Access

/-! Ways through a disk. A way that can be gone leads to the place that its names spell out, and
all that stands on it are directories; so it can be gone on every disk that has these directories,
and what a path leads to is the same on two disks that differ elsewhere. -/

namespace Telemetry.Disk

theorem entry?_put_self {place : Place} (below : place ≠ []) (disk : Disk) (entry : DiskEntry) :
    Disk.entry? (disk.put place entry) place = some entry := by
  have inside : place.isEmpty = false := by simpa using below
  have held : disk.holds place = (disk.entries.find? (·.1 == place)).isSome := by
    simp [holds, entry?, inside]
  unfold put
  rw [held]
  cases found : disk.entries.find? (·.1 == place) with
  | none =>
      simp only [Option.isSome_none, Bool.false_eq_true, if_false, entry?, inside,
        List.find?_append, found]
      simp
  | some other =>
      have here : other.1 = place := by simpa using List.find?_some found
      have same : ((fun found : Place × DiskEntry => found.1 == place) ∘
          fun found => if found.1 == place then (place, entry) else found) =
            fun found => found.1 == place := by
        funext found
        by_cases there : found.1 = place
        · simp [there]
        · simp [there]
      simp only [Option.isSome_some, if_true, entry?, inside, List.find?_map, same, found]
      simp [here]

theorem entry?_put_other {place other : Place} (apart : other ≠ place) (disk : Disk)
    (entry : DiskEntry) : Disk.entry? (disk.put place entry) other = disk.entry? other := by
  unfold put entry?
  split
  · rfl
  · split
    · have same : ((fun found : Place × DiskEntry => found.1 == other) ∘
          fun found => if found.1 == place then (place, entry) else found) =
            fun found => found.1 == other := by
        funext found
        by_cases there : found.1 = place
        · simp [there]
        · simp [there]
      simp only [List.find?_map, same]
      cases found : disk.entries.find? (·.1 == other) with
      | none => rfl
      | some kept =>
          have here : kept.1 = other := by simpa using List.find?_some found
          simp [here, apart]
    · rw [List.find?_append]
      have none_ : List.find? (fun found : Place × DiskEntry => found.1 == other)
          [(place, entry)] = none := by
        simp [Ne.symm apart]
      rw [none_]
      simp

theorem entry?_remove_other {place other : Place} (apart : ¬ place <+: other) (disk : Disk) :
    Disk.entry? (disk.remove place) other = disk.entry? other := by
  unfold remove entry?
  rw [List.find?_filter]
  congr 3
  funext found
  by_cases same : found.1 = other
  · have elsewhere : other.take place.length ≠ place := fun begins =>
      apart (begins ▸ List.take_prefix place.length other)
    simp [same, elsewhere]
  · simp [same]

def descend (place : Place) (name : String) : Place :=
  if name = "." then place else if name = ".." then place.dropLast else place ++ [name]

/-- The place that names spell out, whatever the disk holds. -/
def resolve (place : Place) (names : List String) : Place := names.foldl descend place

def Follows (name : String) : Prop := name = "." ∨ name = ".." ∨ isLongName name = false

variable {disk other : Disk} {place final : Place} {name : String} {names : List String}

theorem walk_cons : disk.walk place (name :: names) = .ok final ↔
    disk.entry? place = some .directory ∧ Follows name ∧
      disk.walk (descend place name) names = .ok final := by
  rw [walk]
  unfold Follows descend
  split
  · rename_i vacant
    simp [vacant]
  · rename_i file
    simp [file]
  · rename_i directory
    by_cases dot : name = "."
    · simp [dot, directory]
    · by_cases dots : name = ".."
      · simp [dots, directory]
      · by_cases long : isLongName name = true
        · simp [dot, dots, long]
        · simp [dot, dots, long, directory]

theorem resolve_of_walk (gone : disk.walk place names = .ok final) :
    final = resolve place names := by
  induction names generalizing place with
  | nil => exact (Except.ok.inj gone).symm
  | cons name rest ih => exact ih (walk_cons.mp gone).2.2

/-- Everything on the way is a directory; only the end may be something else. -/
theorem directories_of_walk (gone : disk.walk place names = .ok final) {before : List String}
    (begins : before <+: names) (proper : before ≠ names) :
    disk.entry? (resolve place before) = some .directory := by
  induction names generalizing place before with
  | nil => exact absurd (List.prefix_nil.mp begins) proper
  | cons name rest ih =>
      obtain ⟨here, _, further⟩ := walk_cons.mp gone
      cases before with
      | nil => exact here
      | cons first others =>
          obtain ⟨rfl, later⟩ := List.cons_prefix_cons.mp begins
          exact ih further later fun same => proper (same ▸ rfl)

theorem follows_of_walk (gone : disk.walk place names = .ok final) :
    ∀ name ∈ names, Follows name := by
  induction names generalizing place with
  | nil => exact List.forall_mem_nil _
  | cons name rest ih =>
      obtain ⟨_, follows, further⟩ := walk_cons.mp gone
      exact List.forall_mem_cons.mpr ⟨follows, ih further⟩

theorem walk_of_directories (follows : ∀ name ∈ names, Follows name)
    (directories : ∀ before, before <+: names → before ≠ names →
      disk.entry? (resolve place before) = some .directory) :
    disk.walk place names = .ok (resolve place names) := by
  induction names generalizing place with
  | nil => rfl
  | cons name rest ih =>
      obtain ⟨first, later⟩ := List.forall_mem_cons.mp follows
      refine walk_cons.mpr ⟨?_, first, ih later ?_⟩
      · exact directories [] (List.nil_prefix) (by simp)
      · intro before begins proper
        exact directories (name :: before) (List.cons_prefix_cons.mpr ⟨rfl, begins⟩)
          (by simpa using proper)

theorem walk_append {more : List String} :
    disk.walk place (names ++ more) = .ok final ↔
      ∃ middle, disk.walk place names = .ok middle ∧ disk.walk middle more = .ok final := by
  induction names generalizing place with
  | nil =>
      constructor
      · exact fun gone => ⟨place, rfl, gone⟩
      · rintro ⟨middle, same, gone⟩
        cases same
        exact gone
  | cons name rest ih =>
      rw [List.cons_append, walk_cons, ih]
      constructor
      · rintro ⟨here, follows, middle, first, second⟩
        exact ⟨middle, walk_cons.mpr ⟨here, follows, first⟩, second⟩
      · rintro ⟨middle, first, second⟩
        obtain ⟨here, follows, further⟩ := walk_cons.mp first
        exact ⟨here, follows, middle, further, second⟩

/-- Every place above this one is a directory. -/
def Grounded (disk : Disk) (place : Place) : Prop :=
  ∀ above, above <+: place → above ≠ place → disk.entry? above = some .directory

theorem Grounded.descend (grounded : disk.Grounded place)
    (here : disk.entry? place = some .directory) (name : String) :
    disk.Grounded (descend place name) := by
  unfold Disk.descend
  split
  · exact grounded
  · split
    · intro above begins proper
      apply grounded above (begins.trans (List.dropLast_prefix place))
      rintro rfl
      apply proper (begins.eq_of_length_le _)
      rw [List.length_dropLast]
      exact Nat.sub_le _ _
    · intro above begins proper
      rcases List.prefix_concat_iff.mp begins with rfl | within
      · exact absurd rfl proper
      · by_cases same : above = place
        · rw [same]
          exact here
        · exact grounded above within same

theorem Grounded.walk (grounded : disk.Grounded place)
    (gone : disk.walk place names = .ok final) : disk.Grounded final := by
  induction names generalizing place with
  | nil =>
      cases gone
      exact grounded
  | cons name rest ih =>
      obtain ⟨here, _, further⟩ := walk_cons.mp gone
      exact ih (grounded.descend here name) further

theorem grounded_root (disk : Disk) : disk.Grounded [] :=
  fun _ begins proper => absurd (List.prefix_nil.mp begins) proper

/-- The directories that a way may come through are directories on the other disk, too. -/
def KeepsWays (disk other : Disk) : Prop :=
  ∀ place, disk.Grounded place → disk.entry? place = some .directory →
    other.entry? place = some .directory

theorem walk_kept (keeps : disk.KeepsWays other) (grounded : disk.Grounded place)
    (gone : disk.walk place names = .ok final) : other.walk place names = .ok final := by
  induction names generalizing place with
  | nil => exact gone
  | cons name rest ih =>
      obtain ⟨here, follows, further⟩ := walk_cons.mp gone
      exact walk_cons.mpr
        ⟨keeps place grounded here, follows, ih (grounded.descend here name) further⟩

/-- The place that a path leads to with what stands there, if it leads anywhere. -/
def target? (disk : Disk) (path : Path) : Option (Place × DiskEntry) := (disk.find path).toOption

variable {path : Path} {entry : DiskEntry}

theorem find_eq_ok : disk.find path = .ok (place, entry) ↔
    path.fault? = none ∧ disk.walk [] path.names = .ok place ∧ disk.entry? place = some entry ∧
      (path.endsInSlash = true → entry = .directory) := by
  constructor
  · intro found
    unfold find checkPath at found
    cases legal : path.fault? with
    | some fault =>
        rw [legal] at found
        cases found
    | none =>
        cases gone : disk.walk [] path.names with
        | error fault =>
            rw [legal, gone] at found
            cases found
        | ok final =>
            simp only [legal, gone, bind, Except.bind] at found
            cases stands : disk.entry? final with
            | none =>
                rw [stands] at found
                cases found
            | some present =>
                rw [stands] at found
                cases present with
                | directory =>
                    cases found
                    exact ⟨rfl, rfl, stands, fun _ => rfl⟩
                | file bytes mode =>
                    dsimp only at found
                    split at found
                    · cases found
                    · rename_i open_
                      cases found
                      exact ⟨rfl, rfl, stands, fun slash => absurd slash open_⟩
  · rintro ⟨legal, gone, stands, slash⟩
    simp only [find, checkPath, legal, gone, bind, Except.bind, stands]
    cases entry with
    | directory => rfl
    | file bytes mode =>
        have open_ : ¬ path.endsInSlash = true := by
          intro ends
          cases slash ends
        dsimp only
        rw [if_neg open_]
        rfl

theorem target?_eq_some : disk.target? path = some (place, entry) ↔
    disk.find path = .ok (place, entry) := by
  unfold target?
  cases disk.find path with
  | error fault => simp [Except.toOption]
  | ok found => simp [Except.toOption]

theorem reaches_eq (disk : Disk) (path : Path) :
    disk.reaches path = (disk.target? path).isSome := by
  unfold reaches target?
  cases disk.find path <;> rfl

theorem target?_kept (keeps : disk.KeepsWays other)
    (leads : disk.target? path = some (place, entry)) (same : other.entry? place = some entry) :
    other.target? path = some (place, entry) := by
  obtain ⟨legal, gone, _, slash⟩ := find_eq_ok.mp (target?_eq_some.mp leads)
  have kept := walk_kept keeps disk.grounded_root gone
  exact target?_eq_some.mpr (find_eq_ok.mpr ⟨legal, kept, same, slash⟩)

/-- On two disks that differ in a place which a path does not lead to, the path leads to the same
as long as that place is no directory on either of them. -/
theorem target?_eq_of_apart {aside : Place}
    (same : ∀ place, place ≠ aside → other.entry? place = disk.entry? place)
    (before : disk.entry? aside ≠ some .directory) (after : other.entry? aside ≠ some .directory)
    (apart : resolve [] path.names ≠ aside) : other.target? path = disk.target? path := by
  have forth (first second : Disk) (plain : first.entry? aside ≠ some .directory)
      (agree : ∀ place, place ≠ aside → second.entry? place = first.entry? place)
      (found : Place × DiskEntry) (leads : first.target? path = some found) :
      second.target? path = some found := by
    have spelt := resolve_of_walk (find_eq_ok.mp (target?_eq_some.mp leads)).2.1
    apply target?_kept _ leads
    · rw [agree found.1 (spelt ▸ apart)]
      exact (find_eq_ok.mp (target?_eq_some.mp leads)).2.2.1
    · intro place _ directory
      rw [agree place fun there => plain (there ▸ directory)]
      exact directory
  cases leads : disk.target? path with
  | some found => exact forth disk other before same found leads
  | none =>
      rw [Option.eq_none_iff_forall_ne_some]
      intro found reached
      have back := forth other disk after (fun place apart => (same place apart).symm) found reached
      rw [leads] at back
      cases back

end Telemetry.Disk
