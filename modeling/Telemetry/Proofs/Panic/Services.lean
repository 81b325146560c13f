import Telemetry.Proofs.Panic.Bridges
import Telemetry.Proofs.Service.Bridging

/-! Services that share a process. Each bridges panics into a chain of its own while it is in use.
They leave each other alone as long as the one that goes is the one whose bridge is the latest;
otherwise the services that came after it are cut off, and gone ones may come back. -/

namespace Telemetry

structure ServiceProcess where
  /-- Services with chains of their own; a chain has the number of its service. -/
  services : List Service
  bridges : Bridges := {}

namespace ServiceProcess

def bridged (process : ServiceProcess) (index : Nat) : Bool :=
  (process.services[index]?.bind (·.bridge)).isSome

def bridgeTo? (process : ServiceProcess) (index : Nat) : Option Nat :=
  process.bridges.built.findIdx? fun entry => entry.1 == index && entry.2.isSome

/-- What becomes of the bridges of the process when a service begins to keep one or ceases to. -/
def follow (process : ServiceProcess) (index : Nat) (before after : Service) : Bridges :=
  if before.bridge.isNone && after.bridge.isSome then process.bridges.install index
  else if before.bridge.isSome && after.bridge.isNone then
    (process.bridgeTo? index).elim process.bridges process.bridges.uninstall
  else process.bridges

def perform (process : ServiceProcess) (index : Nat) (operation : Operation) : ServiceProcess :=
  match process.services[index]? with
  | none => process
  | some service =>
      { services := process.services.set index (service.perform operation)
        bridges := process.follow index service (service.perform operation) }

/-- A thread panics: every chain that panics are bridged to is handed the error. -/
def panic (process : ServiceProcess) (exception : UncaughtException) : ServiceProcess :=
  { process with
    services := process.bridges.hook.chains.foldl
      (fun services index => services.modify index (·.dispatch exception)) process.services }

/-- A service does something; panics concern all services, but for those of deliveries, which are
left to the service that delivers. -/
def step (process : ServiceProcess) : Nat × Operation → ServiceProcess
  | (_, .panic exception) => process.panic exception
  | (index, operation) => process.perform index operation

def run (process : ServiceProcess) (steps : List (Nat × Operation)) : ServiceProcess :=
  steps.foldl step process

/-- A panic is handed once to each service that keeps a bridge, and to no other. -/
def Exact (process : ServiceProcess) : Prop :=
  ∀ index, process.bridges.hook.chains.count index = if process.bridged index then 1 else 0

/-- A service that gives its bridge up is the first that panics are handed to. -/
def InTurn (process : ServiceProcess) (next : Nat × Operation) : Prop :=
  process.bridged next.1 = true → (process.step next).bridged next.1 = false →
    process.bridges.hook.chains.head? = some next.1

/-- The bridges that stand are those which the services keep. -/
def Faithful (process : ServiceProcess) : Prop :=
  ∀ index, (Bridges.standing process.bridges.built).count index =
    if process.bridged index then 1 else 0

variable {process : ServiceProcess} {index : Nat} {service : Service}

theorem bridged_set (process : ServiceProcess) (found : process.services[index]? = some service)
    (after : Service) (bridges : Bridges) (other : Nat) :
    ({ services := process.services.set index after, bridges } : ServiceProcess).bridged other =
      if index = other then after.bridge.isSome else process.bridged other := by
  unfold bridged
  by_cases same : index = other
  · subst same
    have inside := (List.getElem?_eq_some_iff.mp found).1
    rw [List.getElem?_set_self inside, if_pos rfl]
    rfl
  · rw [List.getElem?_set_ne same, if_neg same]

theorem bridged_of_found (found : process.services[index]? = some service) :
    process.bridged index = service.bridge.isSome := by
  rw [bridged, found]
  rfl

theorem Faithful.standing (faithful : process.Faithful) (keeps : process.bridged index = true) :
    ∃ number bridge, process.bridgeTo? index = some number ∧
      process.bridges.built[number]? = some (index, some bridge) := by
  have once := faithful index
  rw [if_pos keeps] at once
  have member : index ∈ Bridges.standing process.bridges.built :=
    List.count_pos_iff.mp (by omega)
  obtain ⟨entry, inside, stands⟩ := List.mem_filterMap.mp member
  obtain ⟨chain, kept⟩ := entry
  obtain ⟨bridge, rfl, rfl⟩ := Option.map_eq_some_iff.mp stands
  cases place : process.bridgeTo? chain with
  | none =>
      have nowhere := List.findIdx?_eq_none_iff.mp place _ inside
      simp at nowhere
  | some number =>
      obtain ⟨bound, holds, _⟩ := List.findIdx?_eq_some_iff_getElem.mp place
      rw [Bool.and_eq_true, beq_iff_eq] at holds
      obtain ⟨same, some_⟩ := holds
      obtain ⟨found, entry⟩ := Option.isSome_iff_exists.mp some_
      refine ⟨number, found, rfl, ?_⟩
      rw [List.getElem?_eq_getElem bound, ← same, ← entry]

theorem bridged_panic (process : ServiceProcess) (exception : UncaughtException) (index : Nat) :
    (process.panic exception).bridged index = process.bridged index := by
  have folded (chains : List Nat) (services : List Service) :
      ((chains.foldl (fun services index => services.modify index (·.dispatch exception))
        services)[index]?.bind (·.bridge)) = services[index]?.bind (·.bridge) := by
    induction chains generalizing services with
    | nil => rfl
    | cons chain rest ih =>
        rw [List.foldl_cons, ih, List.getElem?_modify]
        cases services[index]? with
        | none => rfl
        | some service =>
            by_cases same : chain = index
            · simp [same, Service.bridge_dispatch]
            · simp [same]
  exact congrArg Option.isSome (folded process.bridges.hook.chains process.services)

/-- What a step does to the bridges: nothing, or it sets one up for a service that keeps none, or it
takes the one down that a service keeps. -/
inductive Bridging (process : ServiceProcess) (index : Nat) (after : ServiceProcess) : Prop where
  | none (bridges : after.bridges = process.bridges)
      (bridged : ∀ other, after.bridged other = process.bridged other)
  | up (bare : process.bridged index = false)
      (bridges : after.bridges = process.bridges.install index)
      (bridged : ∀ other, after.bridged other =
        if index = other then true else process.bridged other)
  | down (number : Nat) (bridge : PanicBridge Nat) (kept : process.bridged index = true)
      (stands : process.bridges.built[number]? = some (index, some bridge))
      (bridges : after.bridges = process.bridges.uninstall number)
      (bridged : ∀ other, after.bridged other =
        if index = other then false else process.bridged other)

theorem Faithful.perform (faithful : process.Faithful) (index : Nat) (operation : Operation) :
    process.Bridging index (process.perform index operation) := by
  unfold ServiceProcess.perform
  cases found : process.services[index]? with
  | none => exact .none rfl fun _ => rfl
  | some service =>
      have known := bridged_of_found found
      have set := process.bridged_set found (service.perform operation)
      dsimp only
      cases before : service.bridge with
      | none =>
          rw [before] at known
          cases after : (service.perform operation).bridge with
          | none =>
              refine .none (by simp [follow, before, after]) fun other => ?_
              rw [set, after]
              split
              · rename_i same
                rw [← same]
                exact known.symm
              · rfl
          | some bridge =>
              refine .up known (by simp [follow, before, after]) fun other => ?_
              rw [set, after]
              rfl
      | some kept =>
          rw [before] at known
          cases after : (service.perform operation).bridge with
          | none =>
              obtain ⟨number, bridge, place, stands⟩ := faithful.standing known
              refine .down number bridge known stands (by simp [follow, before, after, place])
                fun other => ?_
              rw [set, after]
              rfl
          | some bridge =>
              refine .none (by simp [follow, before, after]) fun other => ?_
              rw [set, after]
              split
              · rename_i same
                rw [← same]
                exact known.symm
              · rfl

theorem Faithful.bridging (faithful : process.Faithful) (next : Nat × Operation) :
    process.Bridging next.1 (process.step next) := by
  obtain ⟨index, operation⟩ := next
  cases operation with
  | panic exception => exact .none rfl (process.bridged_panic exception)
  | _ => exact faithful.perform index _

theorem Faithful.step (faithful : process.Faithful) (next : Nat × Operation) :
    (process.step next).Faithful := by
  intro other
  cases faithful.bridging next with
  | none bridges bridged =>
      rw [bridges, bridged]
      exact faithful other
  | up bare bridges bridged =>
      have before := faithful other
      have stands : Bridges.standing (process.bridges.install next.1).built =
          Bridges.standing process.bridges.built ++ [next.1] := Bridges.standing_append _ _
      rw [bridges, bridged, stands, List.count_append, before]
      by_cases same : next.1 = other
      · rw [← same, bare]
        simp
      · simp [same]
  | down number bridge kept found bridges bridged =>
      have before := faithful other
      obtain ⟨whole, without⟩ := Bridges.standing_around found
      rw [whole, List.count_append, List.count_cons] at before
      rw [bridges, bridged, Bridges.uninstall_standing found]
      dsimp only
      rw [without, List.count_append]
      by_cases same : next.1 = other
      · subst same
        rw [kept] at before
        simp at before ⊢
        omega
      · simp [same] at before ⊢
        omega

theorem Faithful.exact_iff (faithful : process.Faithful) :
    process.Exact ↔ process.bridges.Exact := by
  unfold Exact Bridges.Exact
  rw [List.perm_iff_count]
  exact forall_congr' fun index => by rw [faithful index]

/-- The bridges that stand are those which the services keep, each set up on top of those before. -/
structure Ordered (process : ServiceProcess) : Prop where
  faithful : process.Faithful
  nested : Bridges.Nested process.bridges.hook process.bridges.built

/-- The bridge of a service is the latest if the service is the first that panics are handed to. -/
theorem Ordered.latest_iff (ordered : process.Ordered) (kept : process.bridged index = true)
    {number : Nat} {bridge : PanicBridge Nat}
    (stands : process.bridges.built[number]? = some (index, some bridge)) :
    process.bridges.hook.chains.head? = some index ↔
      Bridges.IsLatest process.bridges.built number := by
  have once := ordered.faithful index
  obtain ⟨whole, _⟩ := Bridges.standing_around stands
  rw [whole, if_pos kept, List.count_append, List.count_cons_self] at once
  rw [Bridges.isLatest_iff, ordered.nested.chains, whole, List.head?_reverse]
  cases back : Bridges.standing (process.bridges.built.drop (number + 1)) with
  | nil => simp
  | cons later rest =>
      rw [back] at once
      have absent : index ∉ later :: rest := List.count_eq_zero.mp (by omega)
      rw [List.getLast?_append_of_ne_nil _ (List.cons_ne_nil _ _),
        List.getLast?_cons_cons]
      constructor
      · intro last
        exact absurd (List.mem_of_getLast? last) absent
      · intro empty
        cases empty

theorem Ordered.step (ordered : process.Ordered) {next : Nat × Operation}
    (turn : process.InTurn next) : (process.step next).Ordered := by
  refine ⟨ordered.faithful.step next, ?_⟩
  cases ordered.faithful.bridging next with
  | none bridges bridged =>
      rw [bridges]
      exact ordered.nested
  | up bare bridges bridged =>
      rw [bridges]
      exact ordered.nested.stands next.1
  | down number bridge kept stands bridges bridged =>
      have first := turn kept (by rw [bridged, if_pos rfl])
      rw [bridges, Bridges.uninstall_standing stands]
      exact ordered.nested.uninstall stands ((ordered.latest_iff kept stands).mp first)

theorem Ordered.not_exact (ordered : process.Ordered) {next : Nat × Operation}
    (early : ¬ process.InTurn next) : ¬ (process.step next).Exact := by
  rw [(ordered.faithful.step next).exact_iff]
  simp only [InTurn, Classical.not_imp] at early
  obtain ⟨keeps, gone, notFirst⟩ := early
  cases ordered.faithful.bridging next with
  | none bridges bridged =>
      rw [bridged, keeps] at gone
      cases gone
  | up bare bridges bridged =>
      rw [bridged, if_pos rfl] at gone
      cases gone
  | down number bridge kept stands bridges bridged =>
      rw [bridges]
      have early : ¬ process.bridges.InTurn (.uninstall number) := fun turn =>
        notFirst ((ordered.latest_iff kept stands).mpr (turn next.1 bridge stands))
      exact ordered.nested.not_exact early

theorem ordered_of_bare (begun : process.bridges = {})
    (bare : ∀ service ∈ process.services, service.bridge = none) : process.Ordered := by
  constructor
  · intro index
    have unbridged : process.bridged index = false := by
      cases found : process.services[index]? with
      | none => rw [bridged, found]; rfl
      | some service =>
          rw [bridged_of_found found, bare service (List.mem_of_getElem? found)]
          rfl
    rw [begun, unbridged]
    rfl
  · rw [begun]
    exact .bare

theorem bridged_perform (found : process.services[index]? = some service)
    (operation : Operation) : (process.perform index operation).bridged index =
      (service.perform operation).bridge.isSome := by
  unfold perform
  rw [found]
  exact (process.bridged_set found _ _ index).trans (if_pos rfl)

theorem bridged_step (process : ServiceProcess) (next : Nat × Operation) (index : Nat) :
    (process.step next).bridged index = process.bridged index ∨
      next.1 = index ∧ ∃ service, process.services[index]? = some service ∧
        (process.step next).bridged index = (service.perform next.2).bridge.isSome := by
  have performs (which : Nat) (operation : Operation) :
      (process.perform which operation).bridged index = process.bridged index ∨
        which = index ∧ ∃ service, process.services[index]? = some service ∧
          (process.perform which operation).bridged index =
            (service.perform operation).bridge.isSome := by
    cases found : process.services[which]? with
    | none =>
        refine .inl ?_
        unfold perform
        rw [found]
    | some service =>
        by_cases same : which = index
        · subst same
          exact .inr ⟨rfl, service, found, bridged_perform found operation⟩
        · refine .inl ?_
          unfold perform
          rw [found]
          exact (process.bridged_set found _ _ index).trans (if_neg same)
  obtain ⟨which, operation⟩ := next
  cases operation with
  | panic exception => exact .inl (process.bridged_panic exception index)
  | _ => exact performs which _

/-- What no operation of a service changes about its bridge, no run changes. -/
theorem bridged_run {fits : Operation → Prop} {value : Bool}
    (stays : ∀ (service : Service) (operation : Operation), fits operation →
      service.bridge.isSome = value → (service.perform operation).bridge.isSome = value)
    {later : List (Nat × Operation)} (suit : ∀ next ∈ later, next.1 = index → fits next.2)
    (now : process.bridged index = value) : (process.run later).bridged index = value := by
  unfold run
  induction later generalizing process with
  | nil => exact now
  | cons next rest ih =>
      obtain ⟨first, others⟩ := List.forall_mem_cons.mp suit
      apply ih others
      rcases process.bridged_step next index with same | ⟨own, service, found, same⟩
      · rw [same]
        exact now
      · rw [same]
        exact stays service next.2 (first own) ((bridged_of_found found).symm.trans now)

theorem bridged_after_start {client : Nat} (found : process.services[index]? = some service)
    (owns : service.ownsChain = true) (started : service.start.1 = .ok client)
    {later : List (Nat × Operation)}
    (runs : ∀ next ∈ later, next.1 = index → ¬next.2.Unbridges) :
    ((process.step (index, .start)).run later).bridged index = true := by
  have stays (before : Service) (operation : Operation) (noneDown : ¬operation.Unbridges)
      (kept : before.bridge.isSome = true) : (before.perform operation).bridge.isSome = true := by
    rw [Option.isSome_iff_ne_none] at kept ⊢
    exact Service.bridged_perform noneDown kept
  have begun : (process.step (index, .start)).bridged index = true :=
    (bridged_perform found .start).trans
      (Option.isSome_iff_ne_none.mpr (Service.start_bridges owns started))
  exact bridged_run stays runs begun

theorem bridged_after_shutdown (process : ServiceProcess) {later : List (Nat × Operation)}
    (rests : ∀ next ∈ later, next.1 = index → ¬next.2.MayBridge) :
    ((process.step (index, .shutdown)).run later).bridged index = false := by
  have stays (before : Service) (operation : Operation) (noneUp : ¬operation.MayBridge)
      (bare : before.bridge.isSome = false) :
      (before.perform operation).bridge.isSome = false := by
    rw [Option.isSome_eq_false_iff, Option.isNone_iff_eq_none] at bare ⊢
    exact Service.unbridged_perform noneUp bare
  have ended : (process.step (index, .shutdown)).bridged index = false := by
    cases found : process.services[index]? with
    | none =>
        have missing : process.perform index .shutdown = process := by
          unfold perform
          rw [found]
        change (process.perform index .shutdown).bridged index = false
        rw [missing, bridged, found]
        rfl
    | some service =>
        refine (bridged_perform found .shutdown).trans ?_
        rw [Option.isSome_eq_false_iff, Option.isNone_iff_eq_none]
        exact Service.bridge_shutdown
  exact bridged_run stays rests ended

/-- The services of a process leave each other alone exactly as long as always that one of them
gives its bridge up which panics are handed to first: then, and only then, is a panic all through
the run handed once to each service that keeps a bridge and to no other. A service keeps one from
a start that succeeds on until it is shut down, and none from there on until somebody starts it
again. It is the same with bridges and chains alone. -/
theorem panics_reach_bridged_iff (begun : process.bridges = {})
    (bare : ∀ service ∈ process.services, service.bridge = none)
    (steps : List (Nat × Operation)) (acts : List BridgeStep) :
    ((∀ past, past <+: steps → (process.run past).Exact) ↔
        ∀ past next, past ++ [next] <+: steps → (process.run past).InTurn next) ∧
      (∀ past index later,
        (∀ service client, (process.run past).services[index]? = some service →
          service.ownsChain = true → service.start.1 = .ok client →
          (∀ next ∈ later, next.1 = index → ¬next.2.Unbridges) →
          (process.run (past ++ (index, .start) :: later)).bridged index = true) ∧
        ((∀ next ∈ later, next.1 = index → ¬next.2.MayBridge) →
          (process.run (past ++ (index, .shutdown) :: later)).bridged index = false)) ∧
      ((∀ past, past <+: acts → (Bridges.run {} past).Exact) ↔
        ∀ past next, past ++ [next] <+: acts → (Bridges.run {} past).InTurn next) := by
  refine ⟨exact_iff_turns step process Ordered Exact InTurn (ordered_of_bare begun bare)
    (fun _ _ ordered => ordered.step)
    (fun _ ordered => ordered.faithful.exact_iff.mpr ordered.nested.exact_)
    (fun _ _ ordered => ordered.not_exact) steps, ?_, Bridges.exact_iff_inTurn acts⟩
  intro past index later
  have run_around (next : Nat × Operation) : process.run (past ++ next :: later) =
      ((process.run past).step next).run later := by
    unfold run
    rw [List.foldl_append, List.foldl_cons]
  constructor
  · intro service client found owns started runs
    rw [run_around]
    exact bridged_after_start found owns started runs
  · intro rests
    rw [run_around]
    exact bridged_after_shutdown _ rests

def pair : ServiceProcess where
  services := List.replicate 2
    { Service.atHand [(optInKey, .boolean true)] [] with ownsChain := true }

def inTurn : List (Nat × Operation) := [(0, .start), (1, .start), (1, .shutdown), (0, .shutdown)]

def tooEarly : List (Nat × Operation) := [(0, .start), (1, .start), (0, .shutdown)]

theorem panics_reach_bridged_pair :
    pair.bridges = {} ∧ (∀ service ∈ pair.services, service.bridge = none) ∧
      (∀ past, past <+: inTurn → (pair.run past).Exact) ∧
      ¬(∀ past, past <+: tooEarly → (pair.run past).Exact) ∧
      (pair.run (inTurn.take 3)).bridged 0 = true ∧
      (pair.run (inTurn.take 3)).bridged 1 = false ∧
      (pair.run (inTurn.take 3)).bridges.hook.chains = [0] := by
  have fresh : ∀ service ∈ pair.services, service.bridge = none := by
    intro service member
    rw [List.eq_of_mem_replicate member]
    rfl
  have turns : ∀ past next, past ++ [next] <+: inTurn → (pair.run past).InTurn next := by
    rintro past next ⟨rest, whole⟩
    have front : past = inTurn.take past.length := by simp [← whole]
    have place : inTurn[past.length]? = some next := by simp [← whole]
    rw [front]
    generalize past.length = done at place
    rcases done with _ | _ | _ | _ | done
    all_goals cases place
    all_goals unfold InTurn; decide +kernel
  have early : ¬(pair.run [(0, .start), (1, .start)]).InTurn (0, .shutdown) := by
    unfold InTurn
    decide +kernel
  obtain ⟨exact_iff, course, _⟩ := panics_reach_bridged_iff rfl fresh inTurn []
  obtain ⟨tooEarly_iff, _⟩ := panics_reach_bridged_iff rfl fresh tooEarly []
  refine ⟨rfl, fresh, exact_iff.mpr turns, ?_, ?_, ?_, by decide +kernel⟩
  · exact fun all => early (tooEarly_iff.mp all _ _ List.prefix_rfl)
  · apply (course [] 0 [(1, .start), (1, .shutdown)]).1 _ 0 rfl rfl
    · decide +kernel
    · intro next member own
      rcases List.mem_pair.mp member with rfl | rfl
      · cases own
      · cases own
  · exact (course [(0, .start), (1, .start)] 1 []).2 (List.forall_mem_nil _)

/-- Who goes too early takes those with it that started later, and these bring it back when they
go. It comes back as well if it cannot be started again because the choice cannot be read. -/
theorem panics_astray :
    let astray := pair.run tooEarly
    let revived := astray.run [(1, .shutdown)]
    let refused := pair.run [(0, .start), (0, .shutdown),
      (0, .change (.put optInKey (some (.text "no"))) rfl), (0, .start)]
    astray.bridged 1 = true ∧ astray.bridges.hook.chains = [] ∧
      revived.bridged 0 = false ∧ revived.bridged 1 = false ∧
      revived.bridges.hook.chains = [0] ∧
      refused.services[0]?.map (·.start.1.toOption) = some none ∧
      refused.bridges.hook.chains = [0] := by
  decide +kernel

end ServiceProcess

end Telemetry
