import Telemetry.Proofs.Disk.Paving
import Telemetry.Proofs.Text.Ends
import Telemetry.Proofs.Text.Split

/-! Replacing a file through a temporary one beside it. Until the temporary file is moved, nothing
that leads to the real one has changed; the move puts the new contents in its place as a whole. -/

namespace Telemetry.Path

open Telemetry.Text

/-- The ending of a name after its last dot, unless the dot stands first. -/
def ending? (name : String) : Option String :=
  match splitFirst? '.' name.toList.reverse with
  | some (ending, before) =>
      if before.isEmpty then none else some (String.ofList ending.reverse)
  | none => none

/-- The last name of a path; dots for the same place may follow it. -/
def fileName? (path : Path) : Option String :=
  ({ path with names := dropEndWhile (· == ".") path.names } : Path).lastName?

def extension? (path : Path) : Option String := path.fileName?.bind ending?

theorem temporaryName_ne {name : String} (other : ending? name ≠ some "tmp") :
    temporaryName name ≠ name := by
  intro same
  have written := congrArg String.toList same
  unfold temporaryName at written
  simp only [String.toList_append, String.toList_ofList] at written
  have grown (rest : List Char) (same : rest ++ ".tmp".toList = rest) : False := by
    have length := congrArg List.length same
    rw [List.length_append] at length
    have four : ".tmp".toList.length = 4 := rfl
    omega
  unfold ending? at other
  cases split : splitFirst? '.' name.toList.reverse with
  | none =>
      rw [split] at written
      exact grown _ written
  | some parts =>
      obtain ⟨ending, before⟩ := parts
      rw [split] at written other
      dsimp only at written other
      by_cases first : before.isEmpty = true
      · rw [if_pos first] at written
        exact grown _ written
      · rw [if_neg first] at written other
        have whole := congrArg List.reverse (splitFirst?_eq_some split)
        rw [List.reverse_reverse, List.reverse_append, List.reverse_cons, List.append_assoc,
          List.singleton_append] at whole
        rw [whole] at written
        have last := List.append_cancel_left written
        have tail : ending.reverse = ['t', 'm', 'p'] := (List.cons.inj last).2.symm
        rw [tail] at other
        exact other rfl

theorem lastName?_of_fileName? {path : Path} (unnamed : path.fileName? = none) :
    path.lastName? = none := by
  rw [Option.eq_none_iff_forall_ne_some]
  intro name last
  have plain := (Option.filter_eq_some_iff.mp last).2
  have same : dropEndWhile (· == ".") path.names = path.names := by
    apply dropEndWhile_eq_self
    intro other ends
    have names := (Option.filter_eq_some_iff.mp last).1
    rw [ends] at names
    rw [Option.some.inj names]
    simp only [Bool.and_eq_true, bne_iff_ne] at plain
    simpa using plain.1
  unfold fileName? at unnamed
  rw [same] at unnamed
  rw [unnamed] at last
  cases last

theorem temporary_spec {path : Path} {name : String} (named : path.fileName? = some name) :
    ∃ before, Disk.resolve [] path.names = Disk.resolve [] before ++ [name] ∧
      path.temporary = ⟨before ++ [temporaryName name], false⟩ := by
  obtain ⟨whole, plain⟩ := Disk.names_of_lastName? named
  dsimp only at whole
  refine ⟨(dropEndWhile (· == ".") path.names).dropLast, ?_, ?_⟩
  · obtain ⟨dots, names, all⟩ := dropEndWhile_append (· == ".") path.names
    rw [whole] at names
    have still (place : Place) : Disk.resolve place dots = place := by
      clear names
      induction dots with
      | nil => rfl
      | cons first rest ih =>
          obtain ⟨dot, others⟩ := List.forall_mem_cons.mp all
          have stays : Disk.descend place first = place := if_pos (by simpa using dot)
          rw [Disk.resolve, List.foldl_cons, stays]
          exact ih others
    rw [congrArg (Disk.resolve []) names, Disk.resolve_append, still,
      Disk.resolve_concat _ plain]
  · unfold temporary
    unfold fileName? at named
    simp only [named]

end Telemetry.Path

namespace Telemetry.Disk

open Telemetry.Text

variable {disk : Disk} {above : Place} {name : String} {path : Path}

theorem fileToWrite_eq_ok {place : Place} {mode : Nat}
    (leads : disk.fileToWrite path = .ok (place, mode)) :
    ∃ above name, place = above ++ [name] ∧ disk.directoryOf path = .ok above ∧
      path.lastName? = some name ∧ path.endsInSlash = false ∧ isLongName name = false ∧
      disk.entry? (above ++ [name]) ≠ some .directory := by
  unfold fileToWrite at leads
  cases found : disk.directoryOf path with
  | error fault =>
      rw [found] at leads
      cases leads
  | ok above =>
      simp only [found, bind, Except.bind] at leads
      split at leads
      · cases leads
      · rename_i name last
        split at leads
        · cases leads
        · rename_i noSlash
          split at leads
          · cases leads
          · rename_i short
            refine ⟨above, name, ?_⟩
            split at leads
            · cases leads
            · rename_i old mode stands
              cases leads
              exact ⟨rfl, rfl, last, by simpa using noSlash, by simpa using short,
                by simp [stands]⟩
            · rename_i vacant
              cases leads
              exact ⟨rfl, rfl, last, by simpa using noSlash, by simpa using short,
                by simp [vacant]⟩

/-- A file is written at its place, or some of its bytes are, or nothing is changed. -/
theorem writeFile_cases (disk : Disk) (path : Path) (bytes : List UInt8) :
    (∃ fault answers, disk.writeFile path bytes = (.error fault, { disk with answers })) ∨
      ∃ above name mode answers, disk.directoryOf path = .ok above ∧
        path.lastName? = some name ∧ path.endsInSlash = false ∧ isLongName name = false ∧
        disk.entry? (above ++ [name]) ≠ some .directory ∧
        (disk.writeFile path bytes =
            (.ok (), { disk with answers }.put (above ++ [name]) (.file bytes mode)) ∨
          ∃ kept, disk.writeFile path bytes = (.error .refused,
            { disk with answers }.put (above ++ [name]) (.file (bytes.take kept) mode))) := by
  unfold writeFile
  cases leads : disk.fileToWrite path with
  | error fault => exact .inl ⟨fault, disk.answers, rfl⟩
  | ok target =>
      obtain ⟨place, mode⟩ := target
      obtain ⟨above, name, rfl, way, last, noSlash, short, plain⟩ := fileToWrite_eq_ok leads
      obtain ⟨answer, answers, asked⟩ := disk.ask_eq
      cases answer with
      | allowed =>
          exact .inr ⟨above, name, mode, answers, way, last, noSlash, short, plain,
            .inl (by simp only [asked])⟩
      | refused => exact .inl ⟨.refused, answers, by simp only [asked]⟩
      | torn kept =>
          exact .inr ⟨above, name, mode, answers, way, last, noSlash, short, plain,
            .inr ⟨kept, by simp only [asked]⟩⟩

theorem moveFile_cases (disk : Disk) (source target : Path) :
    (∃ fault answers, disk.moveFile source target = (.error fault, { disk with answers })) ∨
      ∃ origin entry above name answers, disk.find source = .ok (origin, entry) ∧
        disk.directoryOf target = .ok above ∧ target.lastName? = some name ∧
        isLongName name = false ∧ target.endsInSlash = false ∧
        disk.entry? (above ++ [name]) ≠ some .directory ∧
        disk.moveFile source target = (.ok (),
          if origin = above ++ [name] then { disk with answers }
          else ({ disk with answers }.remove origin).put (above ++ [name]) entry) := by
  unfold moveFile
  rcases disk.change_cases _ with ⟨fault, answers, failed⟩ | ⟨apply, answers, allowed, made⟩
  · rw [failed]
    exact .inl ⟨fault, answers, rfl⟩
  · rw [made]
    right
    cases found : disk.find source with
    | error fault =>
        rw [found] at allowed
        cases allowed
    | ok start =>
        obtain ⟨origin, entry⟩ := start
        cases way : disk.directoryOf target with
        | error fault =>
            rw [found, way] at allowed
            cases allowed
        | ok above =>
            simp only [found, way, bind, Except.bind] at allowed
            split at allowed
            · cases allowed
            · rename_i name last
              split at allowed
              · cases allowed
              · rename_i short
                split at allowed
                · cases allowed
                · rename_i noSlash
                  split at allowed
                  · cases allowed
                  · rename_i free
                    refine ⟨origin, entry, above, name, answers, rfl, rfl, last,
                      by simpa using short, by simpa using noSlash, free, ?_⟩
                    split at allowed
                    · rename_i same
                      cases allowed
                      rw [if_pos same]
                      rfl
                    · rename_i other
                      cases allowed
                      rw [if_neg other]

/-- What stands at the end of a path is found wherever the way there can be gone. -/
theorem find_at_end {other : Disk} {entry : DiskEntry} (way : disk.directoryOf path = .ok above)
    (last : path.lastName? = some name) (short : isLongName name = false)
    (noSlash : path.endsInSlash = false) (keeps : disk.KeepsWays other)
    (stands : other.entry? (above ++ [name]) = some entry) :
    other.find path = .ok (above ++ [name], entry) := by
  obtain ⟨legal, gone, directory⟩ := directoryOf_eq_ok way
  obtain ⟨whole, plain⟩ := names_of_lastName? last
  have grounded := disk.grounded_root.walk gone
  refine find_eq_ok.mpr ⟨legal, ?_, stands, ?_⟩
  · rw [whole, walk_append]
    refine ⟨above, walk_kept keeps disk.grounded_root gone, ?_⟩
    rw [walk_cons, descend, if_neg plain.1, if_neg plain.2]
    exact ⟨keeps above grounded directory, .inr (.inr short), rfl⟩
  · intro slash
    rw [noSlash] at slash
    cases slash

theorem keepsWays_of_apart {other : Disk} {aside : Place}
    (same : ∀ place, place ≠ aside → other.entry? place = disk.entry? place)
    (plain : disk.entry? aside ≠ some .directory) : disk.KeepsWays other := by
  intro place _ directory
  rw [same place fun there => plain (there ▸ directory)]
  exact directory

structure Holds (disk written : Disk) (path : Path) (aside : Place) (bytes : List UInt8) :
    Prop where
  elsewhere : ∀ place, place ≠ aside → written.entry? place = disk.entry? place
  plain : disk.entry? aside ≠ some .directory
  found : written.find path = .ok (aside, .file bytes privateMode)

theorem holds_setMode {answers : List DeviceAnswer} {mode : Nat} {bytes : List UInt8}
    (way : disk.directoryOf path = .ok above) (last : path.lastName? = some name)
    (noSlash : path.endsInSlash = false) (short : isLongName name = false)
    (plain : disk.entry? (above ++ [name]) ≠ some .directory) :
    Holds disk (({ disk with answers }.put (above ++ [name]) (.file bytes mode)).setMode path
      privateMode) path (above ++ [name]) bytes := by
  have below : above ++ [name] ≠ [] := by simp
  have put (before : Disk) (entry : DiskEntry)
      (same : ∀ place, place ≠ above ++ [name] → before.entry? place = disk.entry? place) :
      (∀ place, place ≠ above ++ [name] →
        Disk.entry? (before.put (above ++ [name]) entry) place = disk.entry? place) ∧
        (before.put (above ++ [name]) entry).find path = .ok (above ++ [name], entry) := by
    have elsewhere : ∀ place, place ≠ above ++ [name] →
        Disk.entry? (before.put (above ++ [name]) entry) place = disk.entry? place := by
      intro place apart
      rw [entry?_put_other apart, same place apart]
    exact ⟨elsewhere, find_at_end way last short noSlash (keepsWays_of_apart elsewhere plain)
      (entry?_put_self below before entry)⟩
  obtain ⟨first, found⟩ := put { disk with answers } (.file bytes mode) (fun _ _ => rfl)
  obtain ⟨second, again⟩ := put _ (.file bytes privateMode) first
  have set : ({ disk with answers }.put (above ++ [name]) (.file bytes mode)).setMode path
      privateMode = ({ disk with answers }.put (above ++ [name]) (.file bytes mode)).put
        (above ++ [name]) (.file bytes privateMode) := by
    rw [setMode, found]
  rw [set]
  exact ⟨second, plain, again⟩

/-- The file is where it should be once the temporary one has been moved there. -/
theorem find_moved {written : Disk} {answers : List DeviceAnswer} {aside : Place}
    {bytes : List UInt8} {mode : Nat} (way : written.directoryOf path = .ok above) (last : path.lastName? = some name)
    (short : isLongName name = false) (noSlash : path.endsInSlash = false)
    (stands : written.entry? aside = some (.file bytes mode))
    (free : written.entry? (above ++ [name]) ≠ some .directory) (entry : DiskEntry) :
    (({ written with answers }.remove aside).put (above ++ [name]) entry).find path =
      .ok (above ++ [name], entry) := by
  apply find_at_end way last short noSlash
  · intro place grounded directory
    have apart : place ≠ above ++ [name] := fun same => free (same ▸ directory)
    have outside : ¬ aside <+: place := by
      intro begins
      by_cases same : aside = place
      · rw [same, directory] at stands
        cases stands
      · rw [grounded aside begins same] at stands
        cases stands
    rw [entry?_put_other apart, entry?_remove_other outside]
    exact directory
  · exact entry?_put_self (by simp) _ entry

theorem resolve_end (way : disk.directoryOf path = .ok above) (last : path.lastName? = some name) :
    resolve [] path.names = above ++ [name] := by
  obtain ⟨_, gone, _⟩ := directoryOf_eq_ok way
  obtain ⟨whole, plain⟩ := names_of_lastName? last
  rw [whole, resolve_concat _ plain, ← resolve_of_walk gone]

theorem temporary_apart (ending : path.extension? ≠ some "tmp")
    (way : disk.directoryOf path.temporary = .ok above)
    (last : path.temporary.lastName? = some name) : resolve [] path.names ≠ above ++ [name] := by
  rw [← resolve_end way last]
  cases named : path.fileName? with
  | none =>
      have itself : path.temporary = path := by
        unfold Path.fileName? at named
        simp only [Path.temporary, named]
      rw [itself, Path.lastName?_of_fileName? named] at last
      cases last
  | some own =>
      obtain ⟨before, here, beside⟩ := Path.temporary_spec named
      obtain ⟨whole, plain⟩ := names_of_lastName? last
      rw [beside] at whole
      have tail : Path.temporaryName own = name := by
        simpa using whole
      have renamed : Path.temporaryName own ≠ own := by
        apply Path.temporaryName_ne
        rw [Path.extension?, named] at ending
        exact ending
      rw [here, beside]
      dsimp only
      rw [resolve_concat _ (tail ▸ plain)]
      intro same
      exact renamed (List.singleton_inj.mp (List.append_cancel_left same)).symm

theorem target?_left_aside {made left : Disk} {aside : Place} (hides : disk.HidesNothing path)
    (paves : Paves path.plainNames.dropLast disk made)
    (paved : Paved path.plainNames.dropLast made) (apart : resolve [] path.names ≠ aside)
    (elsewhere : ∀ place, place ≠ aside → left.entry? place = made.entry? place)
    (before : made.entry? aside ≠ some .directory) (after : left.entry? aside ≠ some .directory) :
    left.target? path = disk.target? path ∧ left.HidesNothing path := by
  constructor
  · rw [← hides.target? paves]
    exact target?_eq_of_apart elsewhere before after apart
  · apply hidesNothing_of_paved
    intro place on
    have directory := paved place on
    exact (elsewhere place fun same => before (same ▸ directory)).trans directory

/-- A file is replaced as a whole, or what leads to it and what it holds stay as they were. -/
theorem replaceFile_cases (hides : disk.HidesNothing path) (ending : path.extension? ≠ some "tmp")
    (contents : String) :
    (∃ fault after, disk.replaceFile path contents = (.error fault, after) ∧
        after.target? path = disk.target? path ∧ after.HidesNothing path) ∨
      ∃ after place, disk.replaceFile path contents = (.ok (), after) ∧
        after.find path = .ok (place, .file (encodeUtf8 contents) privateMode) := by
  have paving := paving_createDirectories disk path.plainNames.dropLast
  unfold replaceFile
  dsimp only
  split
  · rename_i fault made failed
    rw [failed] at paving
    exact .inl ⟨fault, made, rfl, hides.target? paving.paves, hides.paves paving.paves⟩
  · rename_i made done
    rw [done] at paving
    have paves : Paves path.plainNames.dropLast disk made := paving.paves
    have paved : Paved path.plainNames.dropLast made := paving.paved rfl
    rcases made.writeFile_cases path.temporary (encodeUtf8 contents) with
      ⟨fault, answers, failed⟩ |
      ⟨above, name, mode, answers, way, last, noSlash, short, plain, wrote | ⟨kept, torn⟩⟩
    · rw [failed]
      have still : Paves path.plainNames.dropLast disk { made with answers } := paves
      exact .inl ⟨fault, _, rfl, hides.target? still, hides.paves still⟩
    · rw [wrote]
      dsimp only
      have holds := @holds_setMode _ _ _ _ answers mode (encodeUtf8 contents) way last noSlash
        short plain
      generalize ({ made with answers }.put (above ++ [name])
        (.file (encodeUtf8 contents) mode)).setMode path.temporary privateMode = written at *
      have apart := temporary_apart ending way last
      have stands := (find_eq_ok.mp holds.found).2.2.1
      rcases written.moveFile_cases path.temporary path with
        ⟨fault, others, failed⟩ |
        ⟨origin, entry, parent, own, others, found, target, named, fits, open_, free, moved⟩
      · rw [failed]
        have file : written.entry? (above ++ [name]) ≠ some .directory := by simp [stands]
        exact .inl ⟨fault, _, rfl, @target?_left_aside disk path made
          { written with answers := others } _ hides paves paved apart holds.elsewhere plain file⟩
      · rw [holds.found] at found
        cases found
        have other : above ++ [name] ≠ parent ++ [own] := by
          rw [← resolve_end target named]
          exact apart.symm
        rw [moved, if_neg other]
        exact .inr ⟨_, _, rfl, find_moved target named fits open_ stands free _⟩
    · rw [torn]
      have file : Disk.entry? ({ made with answers }.put (above ++ [name])
          (.file ((encodeUtf8 contents).take kept) mode)) (above ++ [name]) ≠
          some .directory := by
        rw [entry?_put_self (by simp)]
        simp
      exact .inl ⟨.refused, _, rfl, target?_left_aside hides paves paved
        (temporary_apart ending way last) (fun _ other => entry?_put_other other _ _) plain file⟩

end Telemetry.Disk
