import Mathlib.Data.List.Induction
import Mathlib.Data.List.Perm.Basic
import Telemetry.PanicHook

/-! The bridges of one process. Each keeps the hook that it found, and whoever takes a bridge down
puts that hook back, whatever is there by then. So the chains that panics are handed to are those of
the bridges that stand as long as always the latest of these is taken down, and no longer. -/

namespace Telemetry

/-- The hook of a process and all bridges that were ever set up, each with its chain; a bridge that
was taken down is gone. -/
structure Bridges where
  hook : PanicHook Nat := .initial
  built : List (Nat × Option (PanicBridge Nat)) := []

inductive BridgeStep where
  | install (chain : Nat)
  /-- Takes the bridge with this number down, unless that was done before. -/
  | uninstall (number : Nat)

namespace Bridges

def install (bridges : Bridges) (chain : Nat) : Bridges :=
  let bridged := bridges.hook.bridge chain
  { hook := bridged.2, built := bridges.built ++ [(chain, some bridged.1)] }

def uninstall (bridges : Bridges) (number : Nat) : Bridges :=
  match bridges.built[number]? with
  | some (chain, some bridge) =>
      { hook := bridge.remove, built := bridges.built.set number (chain, none) }
  | _ => bridges

def step (bridges : Bridges) : BridgeStep → Bridges
  | .install chain => bridges.install chain
  | .uninstall number => bridges.uninstall number

def run (bridges : Bridges) (steps : List BridgeStep) : Bridges := steps.foldl step bridges

theorem run_snoc (bridges : Bridges) (past : List BridgeStep) (next : BridgeStep) :
    bridges.run (past ++ [next]) = (bridges.run past).step next := by
  simp only [run, List.foldl_append, List.foldl_cons, List.foldl_nil]

variable {bridges : Bridges} {chain number : Nat} {bridge : PanicBridge Nat}
  {hook : PanicHook Nat} {built : List (Nat × Option (PanicBridge Nat))}

theorem uninstall_standing (stands : bridges.built[number]? = some (chain, some bridge)) :
    bridges.uninstall number =
      ⟨bridge.remove, bridges.built.set number (chain, none)⟩ := by
  simp only [uninstall, stands]

/-- What a step does: it adds a bridge, it takes one down, or it comes too late. -/
theorem step_cases (bridges : Bridges) (next : BridgeStep) :
    (∃ chain, next = .install chain ∧ bridges.step next =
        ⟨.bridged chain bridges.hook, bridges.built ++ [(chain, some ⟨bridges.hook⟩)]⟩) ∨
      (∃ number chain bridge, next = .uninstall number ∧
        bridges.built[number]? = some (chain, some bridge) ∧ bridges.step next =
          ⟨bridge.previous, bridges.built.set number (chain, none)⟩) ∨
      (∃ number, next = .uninstall number ∧
        (∀ chain bridge, bridges.built[number]? ≠ some (chain, some bridge)) ∧
        bridges.step next = bridges) := by
  cases next with
  | install chain => exact .inl ⟨chain, rfl, rfl⟩
  | uninstall number =>
      by_cases stands : ∃ chain bridge, bridges.built[number]? = some (chain, some bridge)
      · obtain ⟨chain, bridge, found⟩ := stands
        exact .inr (.inl ⟨number, chain, bridge, rfl, found, uninstall_standing found⟩)
      · refine .inr (.inr ⟨number, rfl, ?_, ?_⟩)
        · exact fun chain bridge found => stands ⟨chain, bridge, found⟩
        · unfold step uninstall
          dsimp only
          split
          · rename_i chain bridge found
            exact absurd ⟨chain, bridge, found⟩ stands
          · rfl

structure Shaped (fits : PanicHook Nat → Prop) (bridges : Bridges) : Prop where
  hook : fits bridges.hook
  kept : ∀ chain bridge, (chain, some bridge) ∈ bridges.built → fits bridge.previous

theorem Shaped.step {fits : PanicHook Nat → Prop} (shaped : bridges.Shaped fits) {next : BridgeStep}
    (bridged : ∀ chain hook, next = .install chain → fits hook → fits (.bridged chain hook)) :
    (bridges.step next).Shaped fits := by
  rcases bridges.step_cases next with
    ⟨chain, rfl, after⟩ | ⟨number, chain, bridge, rfl, found, after⟩ | ⟨number, rfl, _, after⟩
  · rw [after]
    refine ⟨bridged chain _ rfl shaped.hook, ?_⟩
    intro other bridge member
    rcases List.mem_append.mp member with old | new
    · exact shaped.kept other bridge old
    · cases List.mem_singleton.mp new
      exact shaped.hook
  · rw [after]
    refine ⟨shaped.kept chain bridge (List.mem_of_getElem? found), ?_⟩
    intro other left member
    rcases List.mem_or_eq_of_mem_set member with old | new
    · exact shaped.kept other left old
    · cases new
  · rw [after]
    exact shaped

theorem step_keeps {entry : Nat × Option (PanicBridge Nat)} {next : BridgeStep}
    (found : bridges.built[number]? = some entry) (other : next ≠ .uninstall number) :
    (bridges.step next).built[number]? = some entry := by
  rcases bridges.step_cases next with
    ⟨chain, rfl, after⟩ | ⟨down, chain, bridge, rfl, _, after⟩ | ⟨down, rfl, _, after⟩
  · rw [after]
    exact (List.getElem?_append_left (List.getElem?_eq_some_iff.mp found).1).trans found
  · rw [after]
    have apart : down ≠ number := fun same => other (same ▸ rfl)
    exact (List.getElem?_set_ne apart).trans found
  · rw [after]
    exact found

/-- Whenever a bridge is taken down, panics are handed on as they were right before it was set up:
what was set up meanwhile is lost, and what was taken down meanwhile is back. -/
theorem uninstall_puts_back (bridges : Bridges) (chain : Nat) {meanwhile : List BridgeStep}
    (stays : ∀ next ∈ meanwhile, next ≠ .uninstall bridges.built.length) :
    (((bridges.install chain).run meanwhile).uninstall bridges.built.length).hook =
      bridges.hook := by
  have stands : ((bridges.install chain).run meanwhile).built[bridges.built.length]? =
      some (chain, some ⟨bridges.hook⟩) := by
    induction meanwhile using List.reverseRecOn with
    | nil => exact List.getElem?_concat_length
    | append_singleton past next ih =>
        rw [run_snoc]
        obtain ⟨earlier, last⟩ := List.forall_mem_append.mp stays
        exact step_keeps (ih earlier) (last next List.mem_cons_self)
  rw [uninstall_standing stands]
  rfl

/-- The chains of the bridges that stand, in the order in which these were set up. -/
def standing (built : List (Nat × Option (PanicBridge Nat))) : List Nat :=
  built.filterMap fun entry => entry.2.map fun _ => entry.1

theorem standing_append (front back : List (Nat × Option (PanicBridge Nat))) :
    standing (front ++ back) = standing front ++ standing back := List.filterMap_append

/-- Every bridge that stands has found the hook that the bridges before it made. -/
inductive Nested : PanicHook Nat → List (Nat × Option (PanicBridge Nat)) → Prop where
  | bare : Nested .initial []
  | gone {hook : PanicHook Nat} {built : List (Nat × Option (PanicBridge Nat))} (chain : Nat)
      (before : Nested hook built) : Nested hook (built ++ [(chain, none)])
  | stands {hook : PanicHook Nat} {built : List (Nat × Option (PanicBridge Nat))} (chain : Nat)
      (before : Nested hook built) :
      Nested (.bridged chain hook) (built ++ [(chain, some ⟨hook⟩)])

theorem Nested.chains (nested : Nested hook built) : hook.chains = (standing built).reverse := by
  induction nested with
  | bare => rfl
  | gone chain before ih =>
      rw [ih, standing_append]
      exact congrArg List.reverse (List.append_nil _).symm
  | stands chain before ih =>
      rw [PanicHook.chains, ih, standing_append, List.reverse_append]
      rfl

/-- The bridge stands, and no later one does. -/
def IsLatest (built : List (Nat × Option (PanicBridge Nat))) (number : Nat) : Prop :=
  ∀ later chain bridge, number < later → built[later]? ≠ some (chain, some bridge)

theorem isLatest_iff : IsLatest built number ↔ standing (built.drop (number + 1)) = [] := by
  rw [List.eq_nil_iff_forall_not_mem]
  constructor
  · intro latest chain member
    obtain ⟨entry, inside, stands⟩ := List.mem_filterMap.mp member
    obtain ⟨other, kept⟩ := entry
    obtain ⟨bridge, rfl, _⟩ := Option.map_eq_some_iff.mp stands
    obtain ⟨index, found⟩ := List.getElem?_of_mem inside
    rw [List.getElem?_drop] at found
    exact latest _ other bridge (by omega) found
  · intro none_ later chain bridge beyond there
    have behind : (built.drop (number + 1))[later - (number + 1)]? = some (chain, some bridge) := by
      rw [List.getElem?_drop, ← there]
      congr 1
      omega
    exact none_ chain (List.mem_filterMap.mpr ⟨_, List.mem_of_getElem? behind, rfl⟩)

theorem standing_around (found : built[number]? = some (chain, some bridge)) :
    standing built =
        standing (built.take number) ++ chain :: standing (built.drop (number + 1)) ∧
      standing (built.set number (chain, none)) =
        standing (built.take number) ++ standing (built.drop (number + 1)) := by
  obtain ⟨inside, entry⟩ := List.getElem?_eq_some_iff.mp found
  constructor
  · have whole : built = built.take number ++ (chain, some bridge) :: built.drop (number + 1) := by
      rw [← entry, List.getElem_cons_drop, List.take_append_drop]
    exact (congrArg standing whole).trans (standing_append _ _)
  · rw [List.set_eq_take_append_cons_drop, if_pos inside, standing_append]
    rfl

/-- A bridge is taken down in turn if it is the latest of those that stand. -/
def InTurn (bridges : Bridges) : BridgeStep → Prop
  | .install _ => True
  | .uninstall number => ∀ chain bridge, bridges.built[number]? = some (chain, some bridge) →
      IsLatest bridges.built number

/-- An entry of a list that was made longer by one is an old one or the last one. -/
theorem entry_cases {last entry : Nat × Option (PanicBridge Nat)}
    (found : (built ++ [last])[number]? = some entry) :
    number < built.length ∧ built[number]? = some entry ∨
      number = built.length ∧ last = entry := by
  by_cases inside : number < built.length
  · rw [List.getElem?_append_left inside] at found
    exact .inl ⟨inside, found⟩
  · have length := (List.getElem?_eq_some_iff.mp found).1
    rw [List.length_append, List.length_singleton] at length
    have same : number = built.length := by omega
    rw [same, List.getElem?_concat_length] at found
    exact .inr ⟨same, Option.some.inj found⟩

theorem Nested.uninstall (nested : Nested hook built)
    (found : built[number]? = some (chain, some bridge)) (latest : IsLatest built number) :
    Nested bridge.previous (built.set number (chain, none)) := by
  induction nested with
  | bare => cases found
  | @gone hook built last before ih =>
      rcases entry_cases found with ⟨inside, old⟩ | ⟨_, new⟩
      · rw [List.set_append_left _ _ inside]
        apply Nested.gone last
        apply ih old
        intro later other kept after there
        apply latest later other kept after
        rw [List.getElem?_append_left (List.getElem?_eq_some_iff.mp there).1, there]
      · cases new
  | @stands hook built last before ih =>
      rcases entry_cases found with ⟨inside, _⟩ | ⟨same, new⟩
      · exact absurd List.getElem?_concat_length (latest built.length last ⟨hook⟩ inside)
      · cases new
        rw [same, List.set_append_right _ _ (Nat.le_refl _), Nat.sub_self]
        exact .gone _ before

theorem Nested.step (nested : Nested bridges.hook bridges.built) {next : BridgeStep}
    (turn : bridges.InTurn next) :
    Nested (bridges.step next).hook (bridges.step next).built := by
  rcases bridges.step_cases next with
    ⟨chain, rfl, after⟩ | ⟨number, chain, bridge, rfl, found, after⟩ | ⟨number, rfl, _, after⟩
  · rw [after]
    exact nested.stands chain
  · rw [after]
    exact nested.uninstall found (turn chain bridge found)
  · rw [after]
    exact nested

theorem Nested.take (nested : Nested hook built)
    (found : built[number]? = some (chain, some bridge)) :
    Nested bridge.previous (built.take number) := by
  induction nested with
  | bare => cases found
  | gone last before ih =>
      rcases entry_cases found with ⟨inside, old⟩ | ⟨_, new⟩
      · rw [List.take_append_of_le_length (Nat.le_of_lt inside)]
        exact ih old
      · cases new
  | stands last before ih =>
      rcases entry_cases found with ⟨inside, old⟩ | ⟨same, new⟩
      · rw [List.take_append_of_le_length (Nat.le_of_lt inside)]
        exact ih old
      · cases new
        rw [same, List.take_left]
        exact before

/-- A panic is handed to the chains of the bridges that stand, once for each, and to no other. -/
def Exact (bridges : Bridges) : Prop := bridges.hook.chains.Perm (standing bridges.built)

theorem Nested.exact_ (nested : Nested bridges.hook bridges.built) : bridges.Exact := by
  unfold Exact
  rw [nested.chains]
  exact List.reverse_perm _

/-- Who takes a bridge down out of turn takes later ones out of use as well. -/
theorem Nested.not_exact (nested : Nested bridges.hook bridges.built) {next : BridgeStep}
    (early : ¬ bridges.InTurn next) : ¬ (bridges.step next).Exact := by
  intro exact_
  rcases bridges.step_cases next with
    ⟨chain, rfl, after⟩ | ⟨number, chain, bridge, rfl, found, after⟩ | ⟨number, rfl, late, after⟩
  · exact early trivial
  · have later : standing (bridges.built.drop (number + 1)) ≠ [] := fun none_ =>
      early fun _ _ _ => isLatest_iff.mpr none_
    have counted := exact_.length_eq
    rw [after] at counted
    dsimp only at counted
    rw [(nested.take found).chains, (standing_around found).2, List.length_reverse,
      List.length_append] at counted
    have some_ := List.length_pos_iff.mpr later
    omega
  · exact early fun chain bridge found => absurd found (late chain bridge)

end Bridges

/-- Steps in turn keep a state in order, and a step out of turn ends that at once: so the states of
a run are exact all the way through if and only if all its steps are taken in turn. -/
theorem exact_iff_turns {State Step : Type} (step : State → Step → State) (start : State)
    (Ordered Exact : State → Prop) (Turn : State → Step → Prop) (begun : Ordered start)
    (keeps : ∀ state next, Ordered state → Turn state next → Ordered (step state next))
    (exact_ : ∀ state, Ordered state → Exact state)
    (breaks : ∀ state next, Ordered state → ¬ Turn state next → ¬ Exact (step state next))
    (steps : List Step) :
    (∀ past, past <+: steps → Exact (past.foldl step start)) ↔
      ∀ past next, past ++ [next] <+: steps → Turn (past.foldl step start) next := by
  have snoc (past : List Step) (next : Step) :
      (past ++ [next]).foldl step start = step (past.foldl step start) next := by
    rw [List.foldl_append, List.foldl_cons, List.foldl_nil]
  constructor
  · intro all
    -- the states before a step are in order, since they are exact and so were the steps in turn
    have ordered (past : List Step) : past <+: steps → Ordered (past.foldl step start) ∧
        ∀ next, past ++ [next] <+: steps → Turn (past.foldl step start) next := by
      induction past using List.reverseRecOn with
      | nil =>
          refine fun _ => ⟨begun, fun next begins => ?_⟩
          by_contra early
          exact breaks _ next begun early (all [next] begins)
      | append_singleton past last ih =>
          intro begins
          obtain ⟨before, turns⟩ := ih ((List.prefix_append past [last]).trans begins)
          have now : Ordered ((past ++ [last]).foldl step start) := by
            rw [snoc]
            exact keeps _ last before (turns last begins)
          refine ⟨now, fun next further => ?_⟩
          by_contra early
          apply breaks _ next now early
          rw [← snoc]
          exact all _ further
    intro past next begins
    exact (ordered past ((List.prefix_append past [next]).trans begins)).2 next begins
  · intro turns past begins
    apply exact_
    induction past using List.reverseRecOn with
    | nil => exact begun
    | append_singleton past last ih =>
        rw [snoc]
        exact keeps _ last (ih ((List.prefix_append past [last]).trans begins))
          (turns past last begins)

/-- Panics reach the chains of the bridges that stand, all through a run, exactly if every bridge
that is taken down is the latest one that stands. -/
theorem Bridges.exact_iff_inTurn (steps : List BridgeStep) :
    (∀ past, past <+: steps → (Bridges.run {} past).Exact) ↔
      ∀ past next, past ++ [next] <+: steps → (Bridges.run {} past).InTurn next :=
  exact_iff_turns Bridges.step {} (fun bridges => Bridges.Nested bridges.hook bridges.built)
    Bridges.Exact Bridges.InTurn .bare (fun _ _ nested => nested.step)
    (fun _ nested => nested.exact_) (fun _ _ nested => nested.not_exact) steps

end Telemetry
