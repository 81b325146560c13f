import Telemetry.Proofs.Agenda
import Telemetry.Proofs.Hooks.Returning
import Telemetry.Proofs.Registry

/-! Handlers that rearrange their chain while an error passes it. All that was done up to a deed says
who is in the chain when it begins: whoever was installed and not uninstalled, with the terminal
handler that was set last. An error passes these, whatever they do meanwhile. -/

namespace Telemetry.HookSession

abbrev HookDeed := Deed HookSession HookFrame

def taken? (deed : HookDeed) : Option (HookStep × HookResult) :=
  match deed.frame with
  | .take _ (next :: _) => some (next, (deed.state.perform next).2.1)
  | _ => none

def installation? (deed : HookDeed) : Option (Nat × Nat) :=
  match taken? deed with
  | some (.install _ _, .installed number) => some (number, deed.state.scripts.length)
  | _ => none

def removal? (deed : HookDeed) : Option Nat :=
  match taken? deed with
  | some (.uninstall index, _) => deed.state.numbers[index]?
  | _ => none

def newcomer? (deed : HookDeed) : Option String :=
  match taken? deed with
  | some (.install name _, _) | some (.setTerminal name _, _) => some name
  | _ => none

/-- The terminal handler after a deed, which was another one before it. -/
def terminalAfter (before : Option Nat) (deed : HookDeed) : Option Nat :=
  match taken? deed with
  | some (.setTerminal _ _, _) => some deed.state.scripts.length
  | some (.clearTerminal, _) => none
  | _ => before

def installed (past : List HookDeed) : List (Nat × Nat) := past.filterMap installation?

/-- The interceptors that were installed and not uninstalled, in the order of installation. -/
def present (past : List HookDeed) : List (Nat × Nat) :=
  Registry.remaining (installed past) (past.filterMap removal?)

def lastTerminal (past : List HookDeed) : Option Nat := past.foldl terminalAfter none

structure Recounts (past : List HookDeed) (session : HookSession) : Prop where
  interceptors :
    session.chain.interceptors.Recalls (installed past) (past.filterMap removal?)
  numbers : session.numbers = (installed past).map (·.1)
  terminal : session.chain.terminal = lastTerminal past
  names : session.scripts.map (·.name) = past.filterMap newcomer?
  known : ∀ handler, handler ∈ (installed past).map (·.2) ∨ handler ∈ session.chain.terminal →
    handler < session.scripts.length
  returning : session.Returning

def Fits (session : HookSession) (frame : HookFrame) : Prop :=
  Harmless frame ∧
    ∀ handler exception, frame = .call handler exception → handler < session.scripts.length

theorem recounts_new : Recounts [] {} where
  interceptors := Registry.recalls_empty
  numbers := rfl
  terminal := rfl
  names := rfl
  known := by simp [installed]
  returning := List.forall_mem_nil _

variable {past : List HookDeed} {session after : HookSession} {deed : HookDeed}

theorem Recounts.handlers (recounts : Recounts past session) :
    session.chain.handlers = (present past).map (·.2) ++ (lastTerminal past).toList := by
  rw [HookChain.handlers, Registry.items, recounts.interceptors.entries, recounts.terminal]
  rfl

theorem installed_snoc (past : List HookDeed) (deed : HookDeed) :
    installed (past ++ [deed]) = installed past ++ (installation? deed).toList :=
  Deed.filterMap_snoc installation? past deed

theorem lastTerminal_snoc (past : List HookDeed) (deed : HookDeed) :
    lastTerminal (past ++ [deed]) = terminalAfter (lastTerminal past) deed := by
  rw [lastTerminal, List.foldl_append]
  rfl

theorem Recounts.snoc (recounts : Recounts past session)
    (interceptors : after.chain.interceptors.Recalls
      (installed past ++ (installation? deed).toList)
      (past.filterMap removal? ++ (removal? deed).toList))
    (numbers : after.numbers = session.numbers ++ (installation? deed).toList.map (·.1))
    (terminal : after.chain.terminal = terminalAfter session.chain.terminal deed)
    (names : after.scripts.map HookScript.name =
      session.scripts.map HookScript.name ++ (newcomer? deed).toList)
    (known : ∀ handler, handler ∈ (installation? deed).toList.map (·.2) ∨
      handler ∈ after.chain.terminal → handler < after.scripts.length)
    (returning : after.Returning) : Recounts (past ++ [deed]) after := by
  have grows : session.scripts.length ≤ after.scripts.length := by
    have lengths := congrArg List.length names
    simp only [List.length_append, List.length_map] at lengths
    omega
  constructor
  · rw [installed_snoc, Deed.filterMap_snoc]
    exact interceptors
  · rw [numbers, installed_snoc, List.map_append, recounts.numbers]
  · rw [terminal, lastTerminal_snoc, recounts.terminal]
  · rw [names, Deed.filterMap_snoc, recounts.names]
  · intro handler met
    rw [installed_snoc, List.map_append, List.mem_append] at met
    rcases met with (old | new) | last
    · exact Nat.lt_of_lt_of_le (recounts.known handler (.inl old)) grows
    · exact known handler (.inl new)
    · exact known handler (.inr last)
  · exact returning

theorem Recounts.aside (recounts : Recounts past session) (noInstallation : installation? deed = none)
    (noRemoval : removal? deed = none) (noNewcomer : newcomer? deed = none)
    (still : terminalAfter session.chain.terminal deed = session.chain.terminal)
    (chain : after.chain = session.chain) (numbers : after.numbers = session.numbers)
    (names : after.scripts.map HookScript.name = session.scripts.map HookScript.name)
    (returning : after.Returning) : Recounts (past ++ [deed]) after := by
  have length : after.scripts.length = session.scripts.length := by
    simpa using congrArg List.length names
  apply recounts.snoc
  · simpa [noInstallation, noRemoval, chain] using recounts.interceptors
  · simpa [noInstallation] using numbers
  · rw [still, chain]
  · simpa [noNewcomer] using names
  · rw [noInstallation, chain, length]
    intro handler met
    rcases met with new | last
    · cases new
    · exact recounts.known handler (.inr last)
  · exact returning

theorem call_keeps (session : HookSession) (handler : Nat) (exception : UncaughtException) :
    (session.call handler exception).2.chain = session.chain ∧
      (session.call handler exception).2.numbers = session.numbers ∧
      (session.call handler exception).2.scripts.map HookScript.name =
        session.scripts.map HookScript.name := by
  unfold HookSession.call
  split
  · exact ⟨rfl, rfl, rfl⟩
  · rename_i script found
    dsimp only
    split
    · exact ⟨rfl, rfl, rfl⟩
    · exact ⟨rfl, rfl, map_set_of_same found rfl⟩

theorem call_takes (session : HookSession) (handler : Nat) (exception : UncaughtException) :
    ∀ frame ∈ (session.call handler exception).1, ∃ name steps, frame = .take name steps := by
  unfold HookSession.call
  split
  · exact List.forall_mem_nil _
  · dsimp only
    split
    · exact List.forall_mem_nil _
    · exact List.forall_mem_singleton.mpr ⟨_, _, rfl⟩

theorem Recounts.perform (recounts : Recounts past session) (name : Option String)
    {next : HookStep} (rest : List HookStep) (returns : next.Returns) (brought : List HookDeed) :
    Recounts (past ++ [.mk session (.take name (next :: rest)) brought])
      (session.perform next).2.2 := by
  have returning := (recounts.returning.perform returns).1
  have nobodyIn := (List.append_nil (installed past)).symm
  have nobodyOut := (List.append_nil (past.filterMap removal?)).symm
  cases next with
  | install name reaction =>
      refine recounts.snoc ?_ rfl rfl List.map_append ?_ returning
      · -- the handler is known by its place among the scripts, and the registry numbers it
        have added := recounts.interceptors.add session.scripts.length
        rw [nobodyOut] at added
        exact added
      · intro handler met
        have longer : (session.perform (.install name reaction)).2.2.scripts.length =
            session.scripts.length + 1 := List.length_append
        rw [longer]
        rcases met with new | last
        · cases List.mem_singleton.mp new
          exact Nat.lt_succ_self _
        · exact Nat.lt_succ_of_lt (recounts.known handler (.inr last))
  | uninstall index =>
      have asked : removal? (.mk session (.take name (.uninstall index :: rest)) brought) =
          session.numbers[index]? := rfl
      cases found : session.numbers[index]? with
      | none =>
          -- nothing was installed under the index yet, so nobody is meant
          have same : (session.perform (.uninstall index)).2.2 = session := by
            simp only [HookSession.perform, found]
          rw [same]
          exact recounts.aside rfl (asked.trans found) rfl rfl rfl rfl rfl recounts.returning
      | some number =>
          have gone : (session.perform (.uninstall index)).2.2 =
              { session with chain := session.chain.uninstall number } := by
            simp only [HookSession.perform, found]
          have given : number ∈ (installed past).map (·.1) := by
            rw [← recounts.numbers]
            exact List.mem_of_getElem? found
          rw [gone] at returning ⊢
          refine recounts.snoc ?_ (List.append_nil _).symm rfl (List.append_nil _).symm ?_ returning
          · have removed := recounts.interceptors.remove given
            rw [nobodyIn] at removed
            rw [asked, found]
            exact removed
          · intro handler met
            rcases met with new | last
            · cases new
            · exact recounts.known handler (.inr last)
  | setTerminal name reaction =>
      refine recounts.snoc ?_ (List.append_nil _).symm rfl List.map_append ?_ returning
      · have kept := recounts.interceptors
        rw [nobodyIn, nobodyOut] at kept
        exact kept
      · intro handler met
        have longer : (session.perform (.setTerminal name reaction)).2.2.scripts.length =
            session.scripts.length + 1 := List.length_append
        rw [longer]
        rcases met with new | last
        · cases new
        · cases last
          exact Nat.lt_succ_self _
  | clearTerminal =>
      refine recounts.snoc ?_ (List.append_nil _).symm rfl (List.append_nil _).symm ?_ returning
      · have kept := recounts.interceptors
        rw [nobodyIn, nobodyOut] at kept
        exact kept
      · intro handler met
        rcases met with new | last
        · cases new
        · cases last
  | panic => cases returns
  | _ => exact recounts.aside rfl rfl rfl rfl rfl rfl rfl returning

theorem Recounts.fits_perform (recounts : Recounts past session) (next : HookStep) :
    ∀ frame ∈ (session.perform next).1, Fits (session.perform next).2.2 frame := by
  cases next with
  | dispatch exception =>
      intro frame member
      refine ⟨harmless_calls _ exception frame member, ?_⟩
      rintro handler other rfl
      obtain ⟨same, listed, called⟩ := List.mem_map.mp member
      cases called
      apply recounts.known
      rcases List.mem_append.mp listed with interceptor | last
      · refine .inl ?_
        rw [Registry.items, recounts.interceptors.entries] at interceptor
        exact List.map_subset _ List.filter_sublist.subset interceptor
      · exact .inr (Option.mem_toList.mp last)
  | uninstall index =>
      simp only [HookSession.perform]
      split
      · exact List.forall_mem_nil _
      · exact List.forall_mem_nil _
  | _ => exact List.forall_mem_nil _

theorem Fits.later {frame : HookFrame} (fits : Fits session frame)
    (grows : session.scripts.length ≤ after.scripts.length) : Fits after frame :=
  ⟨fits.1, fun handler exception same => Nat.lt_of_lt_of_le (fits.2 handler exception same) grows⟩

theorem fits_conclude (session : HookSession) (name : Option String) (result : HookResult) :
    Fits session (.conclude name result) := by
  refine ⟨trivial, ?_⟩
  intro handler exception same
  cases same

theorem fits_take (session : HookSession) (name : Option String) {steps : List HookStep}
    (returns : HookStep.AllReturn steps) : Fits session (.take name steps) := by
  refine ⟨returns, ?_⟩
  intro handler exception same
  cases same

theorem perform_grows (session : HookSession) (next : HookStep) :
    session.scripts.length ≤ (session.perform next).2.2.scripts.length := by
  cases next with
  | install name reaction => simp [HookSession.perform, withScript]
  | uninstall index =>
      simp only [HookSession.perform]
      split
      · exact Nat.le_refl _
      · exact Nat.le_refl _
  | setTerminal name reaction => simp [HookSession.perform, withScript]
  | _ => exact Nat.le_refl _

/-- What a frame makes of the session is what its deed adds to the past; the frames that take its
place fit again, and so do all others. -/
theorem Recounts.step {frame : HookFrame} {brought : List HookDeed}
    (recounts : Recounts past session) (fits : Fits session frame) :
    Recounts (past ++ [.mk session frame brought]) (session.step frame).2 ∧
      (∀ next ∈ (session.step frame).1, Fits (session.step frame).2 next) ∧
      ∀ other, Fits session other → Fits (session.step frame).2 other := by
  cases frame with
  | call handler exception =>
      obtain ⟨chain, numbers, names⟩ := session.call_keeps handler exception
      obtain ⟨returning, harmless⟩ := recounts.returning.call handler exception
      refine ⟨recounts.aside rfl rfl rfl rfl chain numbers names returning, ?_, ?_⟩
      · intro next member
        obtain ⟨name, steps, rfl⟩ := session.call_takes handler exception next member
        exact fits_take _ name (harmless _ member)
      · have length : (session.call handler exception).2.scripts.length =
            session.scripts.length := by simpa using congrArg List.length names
        exact fun other fit => fit.later (Nat.le_of_eq length.symm)
  | take name steps =>
      cases steps with
      | nil =>
          exact ⟨recounts.aside rfl rfl rfl rfl rfl rfl rfl recounts.returning,
            List.forall_mem_nil _, fun _ => id⟩
      | cons next rest =>
          obtain ⟨returns, others⟩ := fits.1
          rw [step_take name rest returns]
          refine ⟨recounts.perform name rest returns brought, ?_,
            fun other fit => fit.later (session.perform_grows next)⟩
          refine List.forall_mem_append.mpr ⟨recounts.fits_perform next, ?_⟩
          exact List.forall_mem_cons.mpr ⟨fits_conclude _ name _,
            List.forall_mem_singleton.mpr (fits_take _ name others)⟩
  | conclude name result =>
      cases name with
      | none =>
          exact ⟨recounts.aside rfl rfl rfl rfl rfl rfl rfl recounts.returning,
            List.forall_mem_nil _, fun _ => id⟩
      | some name =>
          exact ⟨recounts.aside rfl rfl rfl rfl rfl rfl rfl recounts.returning,
            List.forall_mem_nil _, fun other fit => fit.later (Nat.le_refl _)⟩
  | panic message => cases fits.1

theorem Returning.account_run (returning : session.Returning) {agenda : List HookFrame}
    (harmless : ∀ frame ∈ agenda, Harmless frame) :
    ∃ deeds, IsAccount HookSession.step session agenda deeds (session.run agenda) := by
  fun_induction HookSession.run session agenda with
  | case1 session => exact ⟨[], .done session⟩
  | case2 session message later => cases harmless _ List.mem_cons_self
  | case3 session frame later plain ih =>
      obtain ⟨first, others⟩ := List.forall_mem_cons.mp harmless
      obtain ⟨kept, news⟩ := returning.step first
      obtain ⟨deeds, account⟩ := ih kept (List.forall_mem_append.mpr ⟨news, others⟩)
      obtain ⟨brought, later, _, whole⟩ := account.of_step
      exact ⟨_, whole⟩

structure GoesBy (past : List HookDeed) (deed : HookDeed) : Prop where
  interceptors : deed.state.chain.interceptors.entries = present past
  removal : ∀ name index rest number, deed.frame = .take name (.uninstall index :: rest) →
    ((installed past).map (·.1))[index]? = some number →
      deed.brought.map Deed.frame =
        [.conclude name (.uninstalled (decide (number ∈ (present past).map (·.1)))),
          .take name rest]
  /-- An error is handed to all who are present, in their order, and then to the terminal handler;
  when these are done, whoever handed it over goes on. -/
  passage : ∀ name exception rest, deed.frame = .take name (.dispatch exception :: rest) →
    deed.brought.map Deed.frame =
      calls ((present past).map (·.2) ++ (lastTerminal past).toList) exception ++
        [.conclude name .finished, .take name rest]
  call : ∀ handler exception, deed.frame = .call handler exception →
    ∃ name, (past.filterMap newcomer?)[handler]? = some name ∧
      (deed.state.step deed.frame).2.notes =
        deed.state.notes ++ [.called name exception.description]

theorem Recounts.goesBy (recounts : Recounts past deed.state) (fits : Fits deed.state deed.frame)
    {after : HookSession} (account : IsAccount HookSession.step
      (deed.state.step deed.frame).2 (deed.state.step deed.frame).1 deed.brought after) :
    GoesBy past deed := by
  have frames := account.frames
  constructor
  · exact recounts.interceptors.entries
  · intro name index rest number same given
    rw [← recounts.numbers] at given
    have returns : HookStep.Returns (.uninstall index) := trivial
    rw [frames, same, step_take name rest returns]
    simp only [HookSession.perform, given, recounts.interceptors.holds]
    rfl
  · intro name exception rest same
    have returns : HookStep.Returns (.dispatch exception) := trivial
    rw [frames, same, step_take name rest returns]
    simp only [HookSession.perform, recounts.handlers]
  · intro handler exception same
    have known := fits.2 handler exception same
    refine ⟨deed.state.scripts[handler].name, ?_, ?_⟩
    · rw [← recounts.names]
      simp [known]
    · rw [same]
      simp only [HookSession.step, HookSession.call, List.getElem?_eq_getElem known]
      split
      · rfl
      · rfl

/-- Every error passes each who is in the chain at the time once, whatever they do about it. -/
theorem handlers_pass_in_turn (steps : List HookStep) (returns : HookStep.AllReturn steps) :
    ∃ deeds, IsAccount HookSession.step {} [.take none steps] deeds
        (HookSession.run {} [.take none steps]) ∧
      ((installed (Deed.wholes deeds)).map (·.1)).Nodup ∧
      (HookSession.run {} [.take none steps]).chain.interceptors.entries =
        present (Deed.wholes deeds) ∧
      ∀ past deed later, Deed.wholes deeds = past ++ deed :: later → GoesBy past deed := by
  have fits : ∀ frame ∈ [HookFrame.take none steps], Fits {} frame :=
    List.forall_mem_singleton.mpr (fits_take _ none returns)
  obtain ⟨deeds, account⟩ := recounts_new.returning.account_run fun frame member =>
    (fits frame member).1
  obtain ⟨ends, -, each⟩ := account.preserves Recounts.step recounts_new fits
  rw [List.nil_append] at ends
  refine ⟨deeds, account, ends.interceptors.distinct, ends.interceptors.entries, ?_⟩
  intro past deed later listed
  -- at every deed the session is what the deeds before it have made of a new one
  obtain ⟨recounts, suits⟩ := each past deed later listed
  have member : deed ∈ Deed.wholes deeds := by simp [listed]
  obtain ⟨between, brought⟩ := account.brought deed member
  exact recounts.goesBy suits brought

/-- The first interceptor takes itself out, brings in a third one and replaces the terminal
handler; the second one hands over a further error, which does not meet the first any more; the
terminal handler that was replaced still takes its turn, and takes the second one out. -/
def rearrangement : List HookStep :=
  [.setTerminal "original" [.uninstall 1],
    .install "first" [.uninstall 0, .install "third" [], .setTerminal "replacement" []],
    .install "second" [.dispatch { message := "nested" }, .pause, .uninstall 0],
    .dispatch { message := "outer" }, .dispatch { message := "later" }]

theorem handlers_pass_in_turn_rearranged :
    HookStep.AllReturn rearrangement ∧
      (HookSession.run {} [.take none rearrangement]).notes =
        [.called "first" "outer", .stepped "first" (.uninstalled true),
          .stepped "first" (.installed 2), .stepped "first" .finished,
          .called "second" "outer", .called "second" "nested",
          .stepped "second" (.uninstalled false), .called "third" "nested",
          .called "replacement" "nested", .stepped "second" .finished,
          .called "original" "outer", .stepped "original" (.uninstalled true),
          .called "third" "later", .called "replacement" "later"] ∧
      ∃ deeds, IsAccount HookSession.step {} [.take none rearrangement] deeds
        (HookSession.run {} [.take none rearrangement]) ∧
      ((installed (Deed.wholes deeds)).map (·.1)).Nodup ∧
      (HookSession.run {} [.take none rearrangement]).chain.interceptors.entries =
        present (Deed.wholes deeds) ∧
      ∀ past deed later, Deed.wholes deeds = past ++ deed :: later → GoesBy past deed := by
  have returns : HookStep.AllReturn rearrangement := by
    simp [rearrangement, HookStep.AllReturn, HookStep.Returns]
  exact ⟨returns, by decide +kernel, handlers_pass_in_turn rearrangement returns⟩

end Telemetry.HookSession
