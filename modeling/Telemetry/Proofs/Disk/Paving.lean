import Telemetry.Proofs.Disk.Walk

/-! Making the directories on the way of a path. Directories come where nothing stood and nowhere
but on the way; what the path leads to stays the same unless something lay hidden there. -/

namespace Telemetry.Disk

variable {disk made : Disk} {place above : Place} {name : String} {names : List String}
  {path : Path}

/-! ### Attempts -/

theorem ask_eq (disk : Disk) : ∃ answer answers, disk.ask = (answer, { disk with answers }) := by
  obtain ⟨entries, answers⟩ := disk
  cases answers with
  | nil => exact ⟨.allowed, [], rfl⟩
  | cons answer rest => exact ⟨answer, rest, rfl⟩

theorem change_cases (disk : Disk) (attempt : Except DiskFault (Disk → Disk)) :
    (∃ fault answers, disk.change attempt = (.error fault, { disk with answers })) ∨
      ∃ apply answers, attempt = .ok apply ∧
        disk.change attempt = (.ok (), apply { disk with answers }) := by
  unfold change
  cases attempt with
  | error fault => exact .inl ⟨fault, disk.answers, rfl⟩
  | ok apply =>
      obtain ⟨answer, answers, asked⟩ := disk.ask_eq
      cases answer with
      | allowed => exact .inr ⟨apply, answers, rfl, by simp only [asked]⟩
      | refused => exact .inl ⟨.refused, answers, by simp only [asked]⟩
      | torn kept => exact .inl ⟨.refused, answers, by simp only [asked]⟩

theorem directoryOf_eq_ok (found : disk.directoryOf path = .ok above) :
    path.fault? = none ∧ disk.walk [] path.names.dropLast = .ok above ∧
      disk.entry? above = some .directory := by
  unfold directoryOf checkPath at found
  cases legal : path.fault? with
  | some fault =>
      rw [legal] at found
      cases found
  | none =>
      cases gone : disk.walk [] path.names.dropLast with
      | error fault =>
          rw [legal, gone] at found
          cases found
      | ok final =>
          simp only [legal, gone, bind, Except.bind] at found
          split at found
          · cases found
          · cases found
          · rename_i directory
            cases found
            exact ⟨rfl, rfl, directory⟩

theorem names_of_lastName? (last : path.lastName? = some name) :
    path.names = path.names.dropLast ++ [name] ∧ name ≠ "." ∧ name ≠ ".." := by
  obtain ⟨found, plain⟩ := Option.filter_eq_some_iff.mp last
  refine ⟨?_, by simpa using plain⟩
  obtain ⟨before, whole⟩ := List.getLast?_eq_some_iff.mp found
  rw [whole, List.dropLast_concat]

theorem resolve_append (place : Place) (before after : List String) :
    resolve place (before ++ after) = resolve (resolve place before) after := List.foldl_append

theorem resolve_concat (before : List String) (plain : name ≠ "." ∧ name ≠ "..") :
    resolve [] (before ++ [name]) = resolve [] before ++ [name] := by
  unfold resolve
  rw [List.foldl_append, List.foldl_cons, List.foldl_nil, descend, if_neg plain.1, if_neg plain.2]

/-! ### Directories on the way -/

/-- The place is one that a way comes through. -/
def OnWay (names : List String) (place : Place) : Prop :=
  ∃ before, before <+: names ∧ resolve [] before = place

theorem OnWay.longer {names longer : List String} (begins : names <+: longer)
    (on : OnWay names place) : OnWay longer place := by
  obtain ⟨before, inside, here⟩ := on
  exact ⟨before, inside.trans begins, here⟩

/-- Directories have been made on a way where nothing stood. -/
def Paves (names : List String) (disk made : Disk) : Prop :=
  ∀ place, made.entry? place = disk.entry? place ∨
    disk.entry? place = none ∧ made.entry? place = some .directory ∧ OnWay names place

theorem Paves.refl (names : List String) (disk : Disk) : Paves names disk disk :=
  fun _ => .inl rfl

theorem Paves.trans {further : Disk} (first : Paves names disk made)
    (second : Paves names made further) : Paves names disk further := by
  intro place
  rcases second place with same | ⟨vacant, directory, on⟩
  · rw [same]
    exact first place
  · rcases first place with same | ⟨_, other, _⟩
    · exact .inr ⟨same ▸ vacant, directory, on⟩
    · rw [other] at vacant
      cases vacant

theorem Paves.longer {longer : List String} (begins : names <+: longer)
    (paves : Paves names disk made) : Paves longer disk made :=
  fun place => (paves place).imp_right fun new => ⟨new.1, new.2.1, new.2.2.longer begins⟩

theorem Paves.keeps (paves : Paves names disk made) {entry : DiskEntry}
    (stands : disk.entry? place = some entry) : made.entry? place = some entry := by
  rcases paves place with same | ⟨vacant, _⟩
  · rw [same, stands]
  · rw [stands] at vacant
    cases vacant

def Paved (names : List String) (disk : Disk) : Prop :=
  ∀ place, OnWay names place → disk.entry? place = some .directory

theorem paved_of_walk (gone : disk.walk [] names = .ok place)
    (here : disk.entry? place = some .directory) : Paved names disk := by
  rintro _ ⟨before, begins, rfl⟩
  by_cases whole : before = names
  · rw [whole, ← resolve_of_walk gone]
    exact here
  · exact directories_of_walk gone begins whole

theorem Paved.same (paved : Paved names disk) (paves : Paves names disk made) (place : Place) :
    made.entry? place = disk.entry? place := by
  rcases paves place with same | ⟨vacant, _, on⟩
  · exact same
  · rw [paved place on] at vacant
    cases vacant

/-- What is done on the way of a path keeps what is there, and succeeds once the whole way can be
gone. -/
structure Paving (names : List String) (disk : Disk) (outcome : Except DiskFault Unit × Disk) :
    Prop where
  paves : Paves names disk outcome.2
  paved : outcome.1 = .ok () → Paved names outcome.2

theorem makeDirectory_cases (disk : Disk) (path : Path) :
    (∃ fault answers, disk.makeDirectory path = (.error fault, { disk with answers })) ∨
      ∃ above name answers, disk.directoryOf path = .ok above ∧ path.lastName? = some name ∧
        disk.entry? (above ++ [name]) = none ∧
        disk.makeDirectory path =
          (.ok (), ({ disk with answers }).put (above ++ [name]) .directory) := by
  unfold makeDirectory
  rcases disk.change_cases _ with ⟨fault, answers, failed⟩ | ⟨apply, answers, allowed, made⟩
  · rw [failed]
    exact .inl ⟨fault, answers, rfl⟩
  · rw [made]
    right
    cases found : disk.directoryOf path with
    | error fault =>
        rw [found] at allowed
        cases allowed
    | ok above =>
        simp only [found, bind, Except.bind] at allowed
        split at allowed
        · cases allowed
        · rename_i name last
          split at allowed
          · cases allowed
          · split at allowed
            · cases allowed
            · rename_i free
              cases allowed
              exact ⟨above, name, answers, rfl, last, by simpa [holds] using free, rfl⟩

theorem paving_makeDirectory (disk : Disk) (names : List String) :
    Paving names disk (disk.makeDirectory ⟨names, false⟩) := by
  rcases disk.makeDirectory_cases ⟨names, false⟩ with
    ⟨fault, answers, failed⟩ | ⟨above, name, answers, way, last, vacant, made⟩
  · rw [failed]
    refine ⟨Paves.refl names disk, ?_⟩
    intro impossible
    cases impossible
  · rw [made]
    obtain ⟨_, gone, directory⟩ := directoryOf_eq_ok way
    obtain ⟨whole, plain⟩ := names_of_lastName? last
    dsimp only at whole gone
    have end_ : resolve [] names = above ++ [name] := by
      rw [whole, resolve_concat _ plain, ← resolve_of_walk gone]
    have new := entry?_put_self (by simp : above ++ [name] ≠ []) { disk with answers } .directory
    have old {place : Place} (apart : place ≠ above ++ [name]) :=
      entry?_put_other apart { disk with answers } .directory
    constructor
    · intro place
      by_cases here : place = above ++ [name]
      · rw [here]
        exact .inr ⟨vacant, new, names, List.prefix_rfl, end_⟩
      · exact .inl (old here)
    · rintro _ place ⟨before, begins, rfl⟩
      by_cases here : resolve [] before = above ++ [name]
      · rw [here]
        exact new
      · rw [old here]
        have proper : before ≠ names := fun same => here (same ▸ end_)
        apply paved_of_walk gone directory
        refine ⟨before, ?_, rfl⟩
        rw [whole] at begins proper
        exact (List.prefix_concat_iff.mp begins).resolve_left proper

theorem paving_ensureDirectory (disk : Disk) (names : List String) :
    Paving names disk (disk.ensureDirectory ⟨names, false⟩) := by
  have tried := paving_makeDirectory disk names
  unfold ensureDirectory
  split
  · rename_i made outcome
    rw [outcome] at tried
    exact tried
  · rename_i fault asked outcome
    rw [outcome] at tried
    split
    · rename_i reaches
      refine ⟨tried.paves, fun _ => ?_⟩
      unfold reachesDirectory at reaches
      split at reaches
      · rename_i place found
        obtain ⟨_, gone, directory, _⟩ := find_eq_ok.mp found
        exact paved_of_walk gone directory
      · cases reaches
    · exact tried

theorem paving_createDirectories (disk : Disk) (names : List String) :
    Paving names disk (disk.createDirectories names) := by
  fun_induction createDirectories disk names with
  | case1 disk =>
      refine ⟨Paves.refl [] disk, fun _ => ?_⟩
      exact paved_of_walk rfl rfl
  | case2 disk first rest path asked outcome made inner ih =>
      have before := paving_ensureDirectory disk (first :: rest)
      have after := paving_ensureDirectory made (first :: rest)
      rw [outcome] at before
      rw [inner] at ih
      exact ⟨(before.paves.trans (ih.paves.longer (List.dropLast_prefix _))).trans after.paves,
        after.paved⟩
  | case3 disk first rest path asked outcome failed ih =>
      have before := paving_ensureDirectory disk (first :: rest)
      rw [outcome] at before
      refine ⟨before.paves.trans (ih.paves.longer (List.dropLast_prefix _)), fun succeeds => ?_⟩
      exact (failed _ (Prod.ext succeeds rfl)).elim
  | case4 disk first rest path other => exact paving_ensureDirectory disk (first :: rest)

/-! ### Paths that hide nothing -/

/-- Directories that are made on the way of a path do not bring to light anything that the path
leads to. -/
def HidesNothing (disk : Disk) (path : Path) : Prop :=
  ∀ made, Paves path.plainNames.dropLast disk made → made.reaches path = true →
    disk.reaches path = true

theorem hidesNothing_of_reaches (reaches : disk.reaches path = true) : disk.HidesNothing path :=
  fun _ _ _ => reaches

theorem Paves.keepsWays (paves : Paves names disk made) : disk.KeepsWays made :=
  fun _ _ directory => paves.keeps directory

/-- As long as nothing is hidden, a path leads to the same when directories have been made. -/
theorem HidesNothing.target? (hides : disk.HidesNothing path)
    (paves : Paves path.plainNames.dropLast disk made) : made.target? path = disk.target? path := by
  cases leads : disk.target? path with
  | some found =>
      obtain ⟨place, entry⟩ := found
      have stands := (find_eq_ok.mp (target?_eq_some.mp leads)).2.2.1
      exact target?_kept paves.keepsWays leads (paves.keeps stands)
  | none =>
      have blind : disk.reaches path = false := by rw [reaches_eq, leads]; rfl
      cases seen : made.target? path with
      | none => rfl
      | some found =>
          have reached := hides made paves (by rw [reaches_eq, seen]; rfl)
          rw [blind] at reached
          cases reached

theorem HidesNothing.paves (hides : disk.HidesNothing path)
    (paves : Paves path.plainNames.dropLast disk made) : made.HidesNothing path := by
  intro further more reached
  have start := hides further (paves.trans more) reached
  rw [reaches_eq] at start ⊢
  rw [hides.target? paves, start]

theorem hidesNothing_of_paved (paved : Paved path.plainNames.dropLast disk) :
    disk.HidesNothing path := by
  intro made paves reached
  rw [reaches_eq] at reached ⊢
  obtain ⟨found, leads⟩ := Option.isSome_iff_exists.mp reached
  obtain ⟨place, entry⟩ := found
  have back : made.KeepsWays disk := by
    intro place _ directory
    rw [← paved.same paves place, directory]
  have stands := (find_eq_ok.mp (target?_eq_some.mp leads)).2.2.1
  rw [paved.same paves] at stands
  rw [target?_kept back leads stands]
  rfl

/-! ### Which paths hide nothing -/

theorem resolve_plain (place : Place) (names : List String) :
    resolve place (names.filter (· != ".")) = resolve place names := by
  induction names generalizing place with
  | nil => rfl
  | cons name rest ih =>
      by_cases dot : name = "."
      · rw [List.filter_cons_of_neg (by simpa using dot), ih, resolve, resolve, List.foldl_cons,
          descend, if_pos dot]
      · rw [List.filter_cons_of_pos (by simpa using dot), resolve, resolve, List.foldl_cons,
          List.foldl_cons]
        exact ih _

theorem begins_dropLast_filter (test : String → Bool) (names : List String) :
    (names.filter test).dropLast <+: names.dropLast.filter test := by
  rcases List.eq_nil_or_concat names with rfl | ⟨front, last, rfl⟩
  · exact List.prefix_rfl
  · rw [List.concat_eq_append, List.dropLast_concat, List.filter_append]
    by_cases kept : test last = true
    · simp only [List.filter_cons_of_pos kept, List.filter_nil, List.dropLast_concat,
        List.prefix_rfl]
    · rw [List.filter_cons_of_neg kept, List.filter_nil, List.append_nil]
      exact List.dropLast_prefix _

theorem hidesNothing_of_directory (there : disk.directoryOf path = .ok above) :
    disk.HidesNothing path := by
  apply hidesNothing_of_paved
  rintro _ ⟨before, begins, rfl⟩
  obtain ⟨_, gone, directory⟩ := directoryOf_eq_ok there
  obtain ⟨longer, inside, rfl⟩ :=
    List.prefix_filter_iff.mp (begins.trans (begins_dropLast_filter _ path.names))
  rw [resolve_plain]
  exact paved_of_walk gone directory _ ⟨longer, inside, rfl⟩

def IsTree (disk : Disk) : Prop :=
  ∀ place entry, disk.entry? place = some entry → disk.Grounded place

theorem isTree_blank (answers : List DeviceAnswer) : IsTree { answers } := by
  intro place entry stands
  cases place with
  | nil => exact grounded_root _
  | cons first rest => cases stands

theorem resolve_down (place : Place) (down : ".." ∉ names) :
    resolve place names = place ++ names.filter (· != ".") := by
  induction names generalizing place with
  | nil => exact (List.append_nil place).symm
  | cons name rest ih =>
      rw [List.mem_cons, not_or] at down
      rw [resolve, List.foldl_cons]
      by_cases dot : name = "."
      · rw [List.filter_cons_of_neg (by simpa using dot), descend, if_pos dot]
        exact ih _ down.2
      · rw [List.filter_cons_of_pos (by simpa using dot), descend, if_neg dot,
          if_neg (Ne.symm down.1)]
        exact (ih _ down.2).trans (by simp)

theorem hidesNothing_of_down (tree : disk.IsTree) (down : ".." ∉ path.names) :
    disk.HidesNothing path := by
  intro made paves reached
  rw [reaches_eq] at reached ⊢
  obtain ⟨found, leads⟩ := Option.isSome_iff_exists.mp reached
  obtain ⟨place, entry⟩ := found
  obtain ⟨legal, gone, stands, slash⟩ := find_eq_ok.mp (target?_eq_some.mp leads)
  have here : place = path.plainNames := by
    rw [resolve_of_walk gone, resolve_down [] down, List.nil_append]
    rfl
  have spelt {before : List String} (begins : before <+: path.names) :
      resolve [] before = before.filter (· != ".") := by
    rw [resolve_down [] fun up => down (begins.subset up), List.nil_append]
  -- the end of the path is not on its way
  have known : disk.entry? place = some entry := by
    rcases paves place with same | ⟨vacant, _, before, begins, back⟩
    · rw [← same, stands]
    · obtain ⟨longer, inside, rfl⟩ :=
        List.prefix_filter_iff.mp (begins.trans (begins_dropLast_filter _ path.names))
      have short := begins.length_le
      rw [resolve_plain, spelt (inside.trans (List.dropLast_prefix _)), here] at back
      rw [List.length_dropLast, back] at short
      have root : path.plainNames ≠ [] := by
        intro empty
        rw [here, empty] at vacant
        cases vacant
      have some_ := List.length_pos_iff.mpr root
      omega
  have grounded := tree place entry known
  have again : disk.walk [] path.names = .ok place := by
    rw [resolve_of_walk gone]
    apply walk_of_directories (follows_of_walk gone)
    intro before begins proper
    have directory := directories_of_walk gone begins proper
    rw [spelt begins] at directory ⊢
    by_cases end_ : before.filter (· != ".") = place
    · rw [end_] at directory ⊢
      rw [stands] at directory
      rw [known, directory]
    · apply grounded _ _ end_
      rw [here]
      exact begins.filter _
  rw [target?_eq_some.mpr (find_eq_ok.mpr ⟨legal, again, known, slash⟩)]
  rfl

end Telemetry.Disk
