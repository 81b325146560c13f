import Mathlib.Data.List.Basic
import Mathlib.Data.List.Pairwise
import Telemetry.Proofs.Settings.Fields
import Telemetry.Settings.Source

/-! Sources in the order in which they count. Sorting by precedence is stable, so of two sources the
later one is the one with the higher precedence or, with the same precedence, the one that was
registered later; merging in this order lets the last source that sets a field decide about it. -/

namespace Telemetry

/-! ### The order of the sources -/

namespace Precedence

def levels : List Precedence := [.defaults, .systemFile, .userFile, .environment, .explicit]

theorem levels_split (level : Precedence) :
    ∃ lower higher, levels = lower ++ level :: higher ∧
      (∀ other ∈ lower, other.rank < level.rank) ∧ ∀ other ∈ higher, level.rank < other.rank := by
  cases level with
  | defaults => exact ⟨[], _, rfl, by decide, by decide⟩
  | systemFile => exact ⟨[_], _, rfl, by decide, by decide⟩
  | userFile => exact ⟨[_, _], _, rfl, by decide, by decide⟩
  | environment => exact ⟨[_, _, _], _, rfl, by decide, by decide⟩
  | explicit => exact ⟨[_, _, _, _], _, rfl, by decide, by decide⟩

end Precedence

namespace Source

def groups (sources : List Source) : List Source :=
  Precedence.levels.flatMap fun level => sources.filter (·.precedence = level)

/-- A source stands in its group behind those that were registered before it. -/
theorem groups_insert (before : List Source) (source : Source) (after : List Source) :
    ∃ early late, groups (before ++ source :: after) = early ++ source :: late ∧
      groups (before ++ after) = early ++ late ∧
      ∀ other ∈ early, other ∈ before ∨
        other ∈ after ∧ other.precedence.rank < source.precedence.rank := by
  obtain ⟨lower, higher, levels, below, above⟩ := source.precedence.levels_split
  have elsewhere (group : List Precedence) (apart : ∀ level ∈ group, source.precedence ≠ level) :
      (group.flatMap fun level => (before ++ source :: after).filter (·.precedence = level)) =
        group.flatMap fun level => (before ++ after).filter (·.precedence = level) := by
    apply List.flatMap_congr
    intro level member
    simp [apart level member]
  have low := elsewhere lower fun level member same =>
    Nat.lt_irrefl _ (same ▸ below level member)
  have high := elsewhere higher fun level member same =>
    Nat.lt_irrefl _ (same ▸ above level member)
  refine ⟨(lower.flatMap fun level => (before ++ after).filter (·.precedence = level)) ++
      before.filter (·.precedence = source.precedence),
    after.filter (·.precedence = source.precedence) ++
      higher.flatMap fun level => (before ++ after).filter (·.precedence = level), ?_, ?_, ?_⟩
  · unfold groups
    rw [levels, List.flatMap_append, List.flatMap_cons, low, high]
    simp
  · unfold groups
    rw [levels, List.flatMap_append, List.flatMap_cons]
    simp
  · intro other member
    rcases List.mem_append.mp member with inLower | inBefore
    · obtain ⟨level, there, found⟩ := List.mem_flatMap.mp inLower
      obtain ⟨somewhere, same⟩ := List.mem_filter.mp found
      rcases List.mem_append.mp somewhere with early | late
      · exact .inl early
      · refine .inr ⟨late, ?_⟩
        rw [of_decide_eq_true same]
        exact below level there
    · exact .inl (List.mem_filter.mp inBefore).1

theorem groups_sorted {sources : List Source}
    (sorted : sources.Pairwise fun first second =>
      first.precedence.rank ≤ second.precedence.rank) : groups sources = sources := by
  induction sorted with
  | nil => rfl
  | @cons source rest least _ ih =>
      obtain ⟨early, late, inserted, others, earlier⟩ := groups_insert [] source rest
      have none : early = [] := by
        apply List.eq_nil_iff_forall_not_mem.mpr
        intro other member
        rcases earlier other member with impossible | ⟨there, less⟩
        · cases impossible
        · exact absurd (least other there) (Nat.not_le.mpr less)
      rw [none] at inserted others
      rw [List.nil_append, ih] at others
      rw [List.nil_append] at inserted
      rw [inserted, others]
      rfl

end Source

namespace SourceList

def inOrder (first second : Source) : Bool :=
  decide (first.precedence.rank ≤ second.precedence.rank)

theorem inOrder_trans (first second third : Source) (one : inOrder first second = true)
    (other : inOrder second third = true) : inOrder first third = true :=
  decide_eq_true (Nat.le_trans (of_decide_eq_true one) (of_decide_eq_true other))

theorem inOrder_total (first second : Source) :
    (inOrder first second || inOrder second first) = true := by
  simp [inOrder, Nat.le_total]

/-- Sorting keeps the order in which sources of one precedence were registered. -/
theorem filter_sorted (list : SourceList) (level : Precedence) :
    list.sorted.filter (·.precedence = level) = list.sources.filter (·.precedence = level) := by
  have level_of {source : Source}
      (member : source ∈ list.sources.filter (·.precedence = level)) :
      source.precedence = level := of_decide_eq_true (List.mem_filter.mp member).2
  have tied : (list.sources.filter (·.precedence = level)).Pairwise (inOrder · ·) := by
    apply List.pairwise_of_forall_mem_list
    intro first one second other
    unfold inOrder
    rw [level_of one, level_of other]
    exact decide_eq_true (Nat.le_refl _)
  have kept := List.sublist_mergeSort inOrder_trans inOrder_total tied List.filter_sublist
  have inside := kept.filter (·.precedence = level)
  rw [List.filter_filter] at inside
  simp only [Bool.and_self] at inside
  symm
  apply inside.eq_of_length
  exact ((List.mergeSort_perm list.sources inOrder).filter _).length_eq.symm

theorem sorted_eq (list : SourceList) : list.sorted = Source.groups list.sources := by
  have ordered : list.sorted.Pairwise (inOrder · ·) :=
    List.pairwise_mergeSort inOrder_trans inOrder_total list.sources
  rw [← Source.groups_sorted (ordered.imp of_decide_eq_true)]
  apply List.flatMap_congr
  intro level _
  exact list.filter_sorted level

end SourceList

/-! ### Fields of merged layers -/

variable {α : Type} {disk : Disk}

/-- The value that a source sets a field to; a source that fails sets nothing. -/
def Source.setting (disk : Disk) (field : Field α) (source : Source) : Option α :=
  match source.load disk with
  | .ok layer => layer.get field
  | .error _ => none

namespace SourceList

theorem get_mergeSource (field : Field α) (state : Layer × List LogEvent) (source : Source) :
    (mergeSource disk state source).1.get field =
      (source.setting disk field).or (state.1.get field) := by
  unfold mergeSource Source.setting
  cases source.load disk with
  | ok layer => exact Layer.get_merge state.1 layer field
  | error fault => rfl

theorem get_foldl (field : Field α) (sources : List Source) (state : Layer × List LogEvent) :
    (sources.foldl (mergeSource disk) state).1.get field =
      (sources.reverse.findSome? (·.setting disk field)).or (state.1.get field) := by
  induction sources generalizing state with
  | nil => rfl
  | cons source rest ih =>
      rw [List.foldl_cons, ih, get_mergeSource, List.reverse_cons, List.findSome?_append,
        Option.or_assoc]
      simp

theorem foldl_warned (sources : List Source) (layer : Layer) (log : List LogEvent) :
    sources.foldl (mergeSource disk) (layer, log) =
      ((sources.foldl (mergeSource disk) (layer, [])).1,
        log ++ (sources.foldl (mergeSource disk) (layer, [])).2) := by
  induction sources generalizing layer log with
  | nil => simp
  | cons source rest ih =>
      simp only [List.foldl_cons]
      cases loaded : source.load disk with
      | ok other =>
          simp only [mergeSource, loaded]
          exact ih (layer.merge other) log
      | error fault =>
          simp only [mergeSource, loaded]
          rw [ih, ih layer ([] ++ [LogEvent.sourceSkipped source.name])]
          simp

theorem get_layer (list : SourceList) (field : Field α) :
    (list.layer disk).1.get field =
      list.sorted.reverse.findSome? (·.setting disk field) := by
  unfold layer
  rw [get_foldl, Layer.get_empty, Option.or_none]

/-! ### The reference meaning -/

/-- The order in which sources count: by precedence, and then by registration. -/
def Counts (earlier later : Source × Nat) : Prop :=
  earlier.1.precedence.rank < later.1.precedence.rank ∨
    earlier.1.precedence.rank = later.1.precedence.rank ∧ earlier.2 ≤ later.2

/-- What a field is set to: the value of the source that counts last among those that set it, and
nothing if there is none. -/
def Decides (list : SourceList) (disk : Disk) (field : Field α) : Option α → Prop
  | none => ∀ source ∈ list.sources, source.setting disk field = none
  | some value => ∃ source index, list.sources[index]? = some source ∧
      source.setting disk field = some value ∧
      ∀ (other : Source) (place : Nat), list.sources[place]? = some other →
        other.setting disk field ≠ none → Counts (other, place) (source, index)

theorem Decides.unique {list : SourceList} {field : Field α} {one other : Option α}
    (first : list.Decides disk field one) (second : list.Decides disk field other) :
    one = other := by
  cases one with
  | none =>
      cases other with
      | none => rfl
      | some value =>
          obtain ⟨source, index, found, sets, _⟩ := second
          rw [first source (List.mem_of_getElem? found)] at sets
          cases sets
  | some value =>
      obtain ⟨source, index, found, sets, last⟩ := first
      cases other with
      | none =>
          rw [second source (List.mem_of_getElem? found)] at sets
          cases sets
      | some another =>
          obtain ⟨rival, place, there, decides, ending⟩ := second
          have before := last rival place there (by rw [decides]; exact Option.some_ne_none _)
          have behind := ending source index found (by rw [sets]; exact Option.some_ne_none _)
          unfold Counts at before behind
          have same : place = index := by omega
          rw [same, found] at there
          rw [← Option.some.inj there, sets] at decides
          exact decides

/-- The sources in their order, each with its place in the order of registration. -/
def ranking (list : SourceList) : List (Source × Nat) :=
  list.sources.zipIdx.mergeSort (List.zipIdxLE inOrder)

theorem map_ranking (list : SourceList) : list.ranking.map (·.1) = list.sorted :=
  List.mergeSort_zipIdx

theorem mem_ranking {list : SourceList} {source : Source} {index : Nat} :
    (source, index) ∈ list.ranking ↔ list.sources[index]? = some source :=
  (List.mergeSort_perm _ _).mem_iff.trans List.mk_mem_zipIdx_iff_getElem?

theorem ranking_ordered (list : SourceList) : list.ranking.Pairwise Counts := by
  have ordered := List.pairwise_mergeSort (List.zipIdxLE_trans inOrder_trans)
    (List.zipIdxLE_total inOrder_total) list.sources.zipIdx
  refine ordered.imp ?_
  intro earlier later less
  unfold Counts
  simp only [List.zipIdxLE, inOrder, decide_eq_true_eq] at less
  split at less
  · split at less
    · have placed := of_decide_eq_true less
      omega
    · omega
  · cases less

theorem decides_layer (list : SourceList) (field : Field α) :
    list.Decides disk field ((list.layer disk).1.get field) := by
  rw [get_layer, ← map_ranking, ← List.map_reverse, List.findSome?_map]
  cases decided : list.ranking.reverse.findSome? ((·.setting disk field) ∘ (·.1)) with
  | none =>
      intro source member
      obtain ⟨index, found⟩ := List.mem_iff_getElem?.mp member
      exact List.findSome?_eq_none_iff.mp decided (source, index)
        (List.mem_reverse.mpr (mem_ranking.mpr found))
  | some value =>
      obtain ⟨later, ⟨source, index⟩, earlier, split, sets, unset⟩ :=
        List.findSome?_eq_some_iff.mp decided
      have order : list.ranking = earlier.reverse ++ (source, index) :: later.reverse := by
        rw [← List.reverse_reverse list.ranking, split]
        simp
      have ranked := list.ranking_ordered
      rw [order, List.pairwise_append] at ranked
      have member : (source, index) ∈ list.ranking := by
        rw [order]
        exact List.mem_append_right _ List.mem_cons_self
      refine ⟨source, index, mem_ranking.mp member, sets, ?_⟩
      intro other place found setting
      have there := mem_ranking.mpr found
      rw [order] at there
      rcases List.mem_append.mp there with before | behind
      · exact ranked.2.2 _ before _ List.mem_cons_self
      · rcases List.mem_cons.mp behind with same | after
        · rw [same]
          exact .inr ⟨rfl, Nat.le_refl _⟩
        · exact absurd (unset _ (List.mem_reverse.mp after)) setting

/-! ### Loading -/

theorem load_eq (list : SourceList) (paths : Paths) {layer : Layer}
    (decided : ∀ {α : Type} (field : Field α), list.Decides disk field (layer.get field)) :
    (list.load disk paths).1 = (do
      let settings ← Settings.ofLayer layer paths
      settings.validate
      return settings) := by
  have same {α : Type} (field : Field α) : (list.layer disk).1.get field = layer.get field :=
    (list.decides_layer field).unique (decided field)
  unfold load loadBy
  dsimp only
  rw [Settings.ofLayer_congr same]
  rfl

theorem load_congr {list other : SourceList}
    (regrouped : ∀ level, other.sources.filter (·.precedence = level) =
      list.sources.filter (·.precedence = level)) (paths : Paths) :
    other.load disk paths = list.load disk paths := by
  have sorted : other.sorted = list.sorted := by
    rw [sorted_eq, sorted_eq]
    apply List.flatMap_congr
    intro level _
    exact regrouped level
  unfold load loadBy layer
  rw [sorted]

theorem layer_failed {before after : List Source} {source : Source} {fault : SettingsFault}
    (failed : source.load disk = .error fault) :
    ∃ merged early late,
      (⟨before ++ source :: after⟩ : SourceList).layer disk =
        (merged, early ++ .sourceSkipped source.name :: late) ∧
      (⟨before ++ after⟩ : SourceList).layer disk = (merged, early ++ late) := by
  obtain ⟨first, rest, inserted, others, _⟩ := Source.groups_insert before source after
  have registered : (⟨before ++ source :: after⟩ : SourceList).sorted = first ++ source :: rest :=
    (sorted_eq _).trans inserted
  have missing : (⟨before ++ after⟩ : SourceList).sorted = first ++ rest :=
    (sorted_eq _).trans others
  unfold layer
  rw [registered, missing, List.foldl_append, List.foldl_append, List.foldl_cons]
  obtain ⟨merged, early⟩ := first.foldl (mergeSource disk) (Layer.empty, [])
  have skipped : mergeSource disk (merged, early) source =
      (merged, early ++ [.sourceSkipped source.name]) := by
    unfold mergeSource
    rw [failed]
  rw [skipped, foldl_warned rest merged (early ++ [LogEvent.sourceSkipped source.name]),
    foldl_warned rest merged early, List.append_assoc]
  exact ⟨_, early, _, rfl, rfl⟩

theorem load_failed {before after : List Source} {source : Source} {fault : SettingsFault}
    (failed : source.load disk = .error fault) (paths : Paths) :
    ∃ outcome early late,
      (⟨before ++ source :: after⟩ : SourceList).load disk paths =
        (outcome, early ++ .sourceSkipped source.name :: late) ∧
      (⟨before ++ after⟩ : SourceList).load disk paths = (outcome, early ++ late) := by
  obtain ⟨merged, early, late, registered, missing⟩ := layer_failed failed
  unfold load loadBy
  rw [registered, missing]
  exact ⟨_, early, late, rfl, rfl⟩

/-- Loading merges the sources by their precedence, and sources of the same precedence in the order
of their registration: each field has the value of the last source that loads and sets it. So it
does not matter in which order sources of different precedence are registered, and a source that
fails is as good as none, but for the warning that names it. -/
theorem load_reference (list : SourceList) (disk : Disk) (paths : Paths) :
    (∃ layer : Layer, ∀ {α : Type} (field : Field α),
        list.Decides disk field (layer.get field)) ∧
      (∀ layer : Layer, (∀ {α : Type} (field : Field α),
          list.Decides disk field (layer.get field)) →
        (list.load disk paths).1 = (do
          let settings ← Settings.ofLayer layer paths
          settings.validate
          return settings)) ∧
      (∀ other : SourceList, (∀ level, other.sources.filter (·.precedence = level) =
          list.sources.filter (·.precedence = level)) →
        other.load disk paths = list.load disk paths) ∧
      ∀ before source after fault, list.sources = before ++ source :: after →
        source.load disk = .error fault →
          ∃ outcome early late,
            list.load disk paths = (outcome, early ++ .sourceSkipped source.name :: late) ∧
            (⟨before ++ after⟩ : SourceList).load disk paths = (outcome, early ++ late) := by
  refine ⟨⟨(list.layer disk).1, list.decides_layer⟩, ?_, ?_, ?_⟩
  · intro layer decided
    exact list.load_eq paths decided
  · intro other regrouped
    exact load_congr regrouped paths
  · intro before source after fault split failed
    obtain ⟨sources⟩ := list
    rw [show sources = before ++ source :: after from split]
    exact load_failed failed paths

/-- Two files of the same precedence, one of a lower precedence, and a source that fails. -/
def mixedSources : SourceList where
  sources :=
    [.given "explicit" .explicit (.error .noHome),
      .given "first" .userFile (.ok {
        identity := some { trackingId := some "UA-2-2" }
        delivery := some { batchSize := some 2, maxQueueSize := some 40 } }),
      .given "second" .userFile (.ok { delivery := some { batchSize := some 3 } }),
      .given "machine" .systemFile (.ok {
        identity := some {
          trackingId := some "UA-1-1", appName := some "Cards", appVersion := some "3" }
        delivery := some { batchSize := some 4, dryRun := some true } })]

theorem load_reference_mixed :
    let moved : SourceList := ⟨mixedSources.sources.drop 3 ++ mixedSources.sources.take 3⟩
    let healthy : SourceList := ⟨mixedSources.sources.drop 1⟩
    (∃ layer : Layer, (∀ {α : Type} (field : Field α),
        mixedSources.Decides {} field (layer.get field)) ∧
      layer.get .trackingId = some "UA-2-2" ∧ layer.get .batchSize = some 3 ∧
      layer.get .dryRun = some true ∧ layer.get .baseUrl = none ∧
      (mixedSources.load {} .standard).1 = (do
        let settings ← Settings.ofLayer layer .standard
        settings.validate
        return settings)) ∧
    (mixedSources.load {} .standard).1.toOption.map (·.delivery.batchSize) = some 3 ∧
    moved.load {} .standard = mixedSources.load {} .standard ∧
    ∃ outcome early late,
      mixedSources.load {} .standard = (outcome, early ++ .sourceSkipped "explicit" :: late) ∧
      healthy.load {} .standard = (outcome, early ++ late) := by
  intro moved healthy
  have merged {α : Type} (field : Field α) : (mixedSources.layer {}).1.get field =
      ((Source.groups mixedSources.sources).foldl (mergeSource {}) (Layer.empty, [])).1.get
        field := by
    rw [← sorted_eq]
    rfl
  obtain ⟨⟨layer, decided⟩, means, moves, fails⟩ := load_reference mixedSources {} .standard
  have same {α : Type} (field : Field α) :=
    ((decided field).unique (mixedSources.decides_layer field)).trans (merged field)
  refine ⟨⟨layer, decided, ?_, ?_, ?_, ?_, means layer decided⟩, ?_, moves moved ?_,
    fails [] _ _ .noHome rfl rfl⟩
  · rw [same]
    decide +kernel
  · rw [same]
    decide +kernel
  · rw [same]
    decide +kernel
  · rw [same]
    decide +kernel
  · unfold load SourceList.loadBy SourceList.layer
    rw [sorted_eq]
    decide +kernel
  · intro level
    cases level <;> rfl

end SourceList

end Telemetry
