import Mathlib.Data.List.Nodup
import Telemetry.Proofs.Hooks.Passing

/-! Handlers that panic. A panic ends the call in which it happens and everything around it, so an
error that is handed to a chain passes its handlers up to the first that panics and none after it.
The terminal handler, which comes last, runs if and only if every interceptor returns. -/

namespace Telemetry.HookSession

def ending (session : HookSession) (agenda : List HookFrame) : Option String :=
  match agenda with
  | [] => none
  | .panic message :: _ => some message
  | frame :: rest => ending (session.step frame).2 ((session.step frame).1 ++ rest)
termination_by session.weight agenda
decreasing_by exact weight_descends session frame rest

variable {session : HookSession}

/-! ### Agendas one after the other -/

theorem run_plain {frame : HookFrame} (plain : ∀ message, frame ≠ .panic message)
    (rest : List HookFrame) :
    session.run (frame :: rest) = (session.step frame).2.run ((session.step frame).1 ++ rest) := by
  rw [run]
  exact plain

theorem ending_plain {frame : HookFrame} (plain : ∀ message, frame ≠ .panic message)
    (rest : List HookFrame) :
    session.ending (frame :: rest) =
      (session.step frame).2.ending ((session.step frame).1 ++ rest) := by
  rw [ending]
  exact plain

/-- What is done first is done to its end; then comes the rest, unless there was a panic. -/
theorem run_after (session : HookSession) (front rest : List HookFrame) :
    session.run (front ++ rest) =
      (session.ending front).elim ((session.run front).run rest) fun _ => session.run front := by
  fun_induction HookSession.run session front with
  | case1 session =>
      rw [ending]
      rfl
  | case2 session message later =>
      rw [List.cons_append, run, ending]
      rfl
  | case3 session frame later plain ih =>
      rw [List.cons_append, run_plain plain, ending_plain plain, ← List.append_assoc]
      exact ih

theorem result_ending {agenda : List HookFrame} {message : String}
    (ended : session.ending agenda = some message) :
    (session.run agenda).result = .panicked message := by
  fun_induction HookSession.run session agenda with
  | case1 session =>
      rw [ending] at ended
      cases ended
  | case2 session other later =>
      rw [ending] at ended
      cases ended
      rfl
  | case3 session frame later plain ih =>
      rw [ending_plain plain] at ended
      exact ih ended

theorem Returning.ending (returning : session.Returning) {agenda : List HookFrame}
    (harmless : ∀ frame ∈ agenda, Harmless frame) : session.ending agenda = none := by
  fun_induction HookSession.ending session agenda with
  | case1 session => rfl
  | case2 session message later => cases harmless _ List.mem_cons_self
  | case3 session frame later plain ih =>
      obtain ⟨first, others⟩ := List.forall_mem_cons.mp harmless
      obtain ⟨kept, news⟩ := returning.step first
      exact ih kept (List.forall_mem_append.mpr ⟨news, others⟩)

/-! ### The passage of an error -/

/-- Handlers that were called one after the other, up to the first panic. -/
structure Passage where
  called : List Nat
  after : HookSession
  failure : Option String

def pass (session : HookSession) (exception : UncaughtException) : List Nat → Passage
  | [] => ⟨[], session, none⟩
  | handler :: rest =>
      let after := session.run [.call handler exception]
      match session.ending [.call handler exception] with
      | some message => ⟨[handler], after, some message⟩
      | none => { after.pass exception rest with
          called := handler :: (after.pass exception rest).called }

variable {exception : UncaughtException}

theorem pass_returned {handler : Nat} (returned : session.ending [.call handler exception] = none)
    (rest : List Nat) : session.pass exception (handler :: rest) =
      { (session.run [.call handler exception]).pass exception rest with
        called :=
          handler :: ((session.run [.call handler exception]).pass exception rest).called } := by
  simp only [pass, returned]

theorem pass_panicked {handler : Nat} {message : String}
    (panicked : session.ending [.call handler exception] = some message) (rest : List Nat) :
    session.pass exception (handler :: rest) =
      ⟨[handler], session.run [.call handler exception], some message⟩ := by
  simp only [pass, panicked]

theorem run_calls (session : HookSession) (exception : UncaughtException) (handlers : List Nat)
    (rest : List HookFrame) :
    session.run (calls handlers exception ++ rest) =
      (session.pass exception handlers).failure.elim
        ((session.pass exception handlers).after.run rest)
        fun _ => (session.pass exception handlers).after := by
  induction handlers generalizing session with
  | nil => rfl
  | cons handler others ih =>
      have split : calls (handler :: others) exception ++ rest =
          [.call handler exception] ++ (calls others exception ++ rest) := rfl
      rw [split, run_after]
      cases ended : session.ending [.call handler exception] with
      | some message =>
          rw [pass_panicked ended]
          rfl
      | none =>
          rw [pass_returned ended]
          exact ih _

/-- A passage goes on with further handlers if nobody panicked, and else is over. -/
theorem pass_append (session : HookSession) (exception : UncaughtException)
    (first second : List Nat) :
    session.pass exception (first ++ second) =
      (session.pass exception first).failure.elim
        { (session.pass exception first).after.pass exception second with
          called := (session.pass exception first).called ++
            ((session.pass exception first).after.pass exception second).called }
        fun _ => session.pass exception first := by
  induction first generalizing session with
  | nil => rfl
  | cons handler others ih =>
      rw [List.cons_append]
      cases ended : session.ending [.call handler exception] with
      | some message =>
          rw [pass_panicked ended, pass_panicked ended]
          rfl
      | none =>
          rw [pass_returned ended, pass_returned ended, ih]
          cases (pass _ exception others).failure <;> rfl

theorem called_finished {handlers : List Nat}
    (finished : (session.pass exception handlers).failure = none) :
    (session.pass exception handlers).called = handlers := by
  induction handlers generalizing session with
  | nil => rfl
  | cons handler others ih =>
      cases ended : session.ending [.call handler exception] with
      | some message =>
          rw [pass_panicked ended] at finished
          cases finished
      | none =>
          rw [pass_returned ended] at finished ⊢
          exact congrArg (handler :: ·) (ih finished)

/-- The passage that a panic ended: who panicked, and those before, who returned. -/
theorem pass_failed {handlers : List Nat} {message : String}
    (failed : (session.pass exception handlers).failure = some message) :
    ∃ before culprit left, handlers = before ++ culprit :: left ∧
      (session.pass exception before).failure = none ∧
      (session.pass exception before).after.ending [.call culprit exception] = some message ∧
      (session.pass exception handlers).called = before ++ [culprit] := by
  induction handlers generalizing session with
  | nil => cases failed
  | cons handler others ih =>
      cases ended : session.ending [.call handler exception] with
      | some other =>
          rw [pass_panicked ended] at failed ⊢
          obtain rfl : other = message := Option.some.inj failed
          exact ⟨[], handler, others, rfl, rfl, ended, rfl⟩
      | none =>
          rw [pass_returned ended] at failed ⊢
          obtain ⟨before, culprit, left, rfl, returned, panicked, called⟩ := ih failed
          refine ⟨handler :: before, culprit, left, rfl, ?_, ?_, ?_⟩
          · rw [pass_returned ended]
            exact returned
          · rw [pass_returned ended]
            exact panicked
          · exact congrArg (handler :: ·) called

theorem result_pass {handlers : List Nat} {message : String}
    (failed : (session.pass exception handlers).failure = some message) :
    (session.pass exception handlers).after.result = .panicked message := by
  induction handlers generalizing session with
  | nil => cases failed
  | cons handler others ih =>
      cases ended : session.ending [.call handler exception] with
      | some other =>
          rw [pass_panicked ended] at failed ⊢
          obtain rfl : other = message := Option.some.inj failed
          exact result_ending ended
      | none =>
          rw [pass_returned ended] at failed ⊢
          exact ih failed

theorem Returning.pass (returning : session.Returning) (exception : UncaughtException)
    (handlers : List Nat) : (session.pass exception handlers).failure = none := by
  induction handlers generalizing session with
  | nil => rfl
  | cons handler others ih =>
      have harmless := harmless_calls [handler] exception
      rw [pass_returned (returning.ending harmless)]
      exact ih (run_append returning harmless []).2

/-! ### What is written down of a passage -/

structure Precedes (before after : HookSession) : Prop where
  notes : before.notes <+: after.notes
  names : before.scripts.map HookScript.name <+: after.scripts.map HookScript.name

theorem Precedes.refl (session : HookSession) : session.Precedes session :=
  ⟨List.prefix_rfl, List.prefix_rfl⟩

theorem Precedes.trans {before between after : HookSession} (first : before.Precedes between)
    (second : between.Precedes after) : before.Precedes after :=
  ⟨first.notes.trans second.notes, first.names.trans second.names⟩

theorem precedes_withScript (session : HookSession) (name : String) (reaction : List HookStep) :
    session.Precedes (session.withScript name reaction) := by
  constructor
  · exact List.prefix_rfl
  · simp [withScript]

theorem precedes_perform (session : HookSession) (next : HookStep) :
    session.Precedes (session.perform next).2.2 := by
  cases next with
  | install name reaction =>
      have longer := session.precedes_withScript name reaction
      exact ⟨longer.notes, longer.names⟩
  | setTerminal name reaction =>
      have longer := session.precedes_withScript name reaction
      exact ⟨longer.notes, longer.names⟩
  | uninstall index =>
      unfold HookSession.perform
      dsimp only
      split
      · exact .refl session
      · exact ⟨List.prefix_rfl, List.prefix_rfl⟩
  | clearTerminal => exact ⟨List.prefix_rfl, List.prefix_rfl⟩
  | _ => exact .refl session

theorem call_notes (session : HookSession) (exception : UncaughtException) {handler : Nat}
    {name : String} (named : (session.scripts.map HookScript.name)[handler]? = some name) :
    (session.call handler exception).2.notes =
      session.notes ++ [.called name exception.description] := by
  rw [List.getElem?_map] at named
  obtain ⟨script, found, rfl⟩ := Option.map_eq_some_iff.mp named
  unfold call
  rw [found]
  dsimp only
  split
  · rfl
  · rfl

theorem precedes_call (session : HookSession) (handler : Nat) (exception : UncaughtException) :
    session.Precedes (session.call handler exception).2 := by
  constructor
  · cases named : (session.scripts.map HookScript.name)[handler]? with
    | some name =>
        rw [session.call_notes exception named]
        exact List.prefix_append _ _
    | none =>
        rw [List.getElem?_map, Option.map_eq_none_iff] at named
        unfold call
        simp only [named, List.prefix_rfl]
  · simp only [(session.call_keeps handler exception).2.2, List.prefix_rfl]

theorem precedes_step (session : HookSession) (frame : HookFrame) :
    session.Precedes (session.step frame).2 := by
  unfold HookSession.step
  split
  · exact session.precedes_call _ _
  · exact .refl session
  · exact .refl session
  · exact session.precedes_perform _
  · exact ⟨List.prefix_append _ _, List.prefix_rfl⟩
  · exact ⟨List.prefix_rfl, List.prefix_rfl⟩
  · exact ⟨List.prefix_rfl, List.prefix_rfl⟩

theorem precedes_run (session : HookSession) (agenda : List HookFrame) :
    session.Precedes (session.run agenda) := by
  fun_induction HookSession.run session agenda with
  | case1 session => exact .refl session
  | case2 session message later => exact session.precedes_step _
  | case3 session frame later plain ih => exact (session.precedes_step frame).trans ih

/-- The notes of handlers that were called for an error one after the other. Whatever else a handler
does is written down after its call. -/
inductive Noted (names : List String) (exception : UncaughtException) :
    List Nat → List HookNote → Prop where
  | nobody : Noted names exception [] []
  | next {handler : Nat} {name : String} {called : List Nat} {notes : List HookNote}
      (more : List HookNote) (named : names[handler]? = some name)
      (others : Noted names exception called notes) :
      Noted names exception (handler :: called)
        (.called name exception.description :: more ++ notes)

theorem run_call_notes (session : HookSession) (exception : UncaughtException) {handler : Nat}
    {name : String} (named : (session.scripts.map HookScript.name)[handler]? = some name) :
    ∃ more, (session.run [.call handler exception]).notes =
      session.notes ++ .called name exception.description :: more := by
  rw [run_plain fun _ => HookFrame.noConfusion]
  obtain ⟨more, written⟩ := ((session.step (.call handler exception)).2.precedes_run
    ((session.step (.call handler exception)).1 ++ [])).notes
  refine ⟨more, ?_⟩
  rw [← written, HookSession.step, session.call_notes exception named, List.append_assoc]
  rfl

/-- The handlers that a passage calls, and no others, are written down as called. -/
theorem pass_noted {names : List String} {handlers : List Nat}
    (names_known : names <+: session.scripts.map HookScript.name)
    (known : ∀ handler ∈ handlers, handler < names.length) :
    ∃ notes, (session.pass exception handlers).after.notes = session.notes ++ notes ∧
      Noted names exception (session.pass exception handlers).called notes := by
  induction handlers generalizing session with
  | nil => exact ⟨[], (List.append_nil _).symm, .nobody⟩
  | cons handler others ih =>
      obtain ⟨first, rest⟩ := List.forall_mem_cons.mp known
      have named := List.getElem?_eq_getElem first
      have there : (session.scripts.map HookScript.name)[handler]? = some names[handler] := by
        obtain ⟨left, same⟩ := names_known
        rw [← same, List.getElem?_append_left first, named]
      obtain ⟨more, written⟩ := session.run_call_notes exception there
      cases ended : session.ending [.call handler exception] with
      | some message =>
          rw [pass_panicked ended]
          exact ⟨_, written, List.append_nil (_ :: more) ▸ .next more named .nobody⟩
      | none =>
          have longer := names_known.trans (session.precedes_run [.call handler exception]).names
          obtain ⟨notes, added, noted⟩ := ih longer rest
          rw [pass_returned ended]
          refine ⟨_, ?_, .next more named noted⟩
          rw [added, written, List.append_assoc]

/-! ### Who is in a chain -/

structure Distinct (session : HookSession) : Prop where
  known : ∀ handler ∈ session.chain.handlers, handler < session.scripts.length
  once : session.chain.handlers.Nodup

theorem Distinct.of_sublist {before after : HookSession} (distinct : before.Distinct)
    (part : after.chain.handlers.Sublist before.chain.handlers)
    (scripts : before.scripts.length ≤ after.scripts.length) : after.Distinct := by
  constructor
  · intro handler member
    have known := distinct.known handler (part.subset member)
    omega
  · exact distinct.once.sublist part

theorem Distinct.perform (distinct : session.Distinct) (next : HookStep) :
    (session.perform next).2.2.Distinct := by
  have items : session.chain.interceptors.items.Sublist session.chain.handlers :=
    List.sublist_append_left _ _
  have fresh : session.scripts.length ∉ session.chain.handlers := by
    intro member
    exact Nat.lt_irrefl _ (distinct.known _ member)
  cases next with
  | install name reaction =>
      have handlers : (session.perform (.install name reaction)).2.2.chain.handlers =
          session.chain.interceptors.items ++ [session.scripts.length] ++
            session.chain.terminal.toList := by
        simp [HookSession.perform, HookChain.install, HookChain.handlers, Registry.items,
          Registry.add]
      have swapped := List.perm_append_comm_assoc session.chain.interceptors.items
        [session.scripts.length] session.chain.terminal.toList
      constructor
      · intro handler member
        have length : (session.perform (.install name reaction)).2.2.scripts.length =
            session.scripts.length + 1 := List.length_append
        rw [handlers, List.append_assoc, swapped.mem_iff] at member
        rcases List.mem_cons.mp member with rfl | old
        · omega
        · have known := distinct.known handler old
          omega
      · rw [handlers, List.append_assoc, swapped.nodup_iff]
        exact List.nodup_cons.mpr ⟨fresh, distinct.once⟩
  | uninstall index =>
      unfold HookSession.perform
      dsimp only
      split
      · exact distinct
      · apply distinct.of_sublist
        · exact (List.filter_sublist.map _).append_right _
        · exact Nat.le_refl _
  | setTerminal name reaction =>
      have handlers : (session.perform (.setTerminal name reaction)).2.2.chain.handlers =
          session.chain.interceptors.items ++ [session.scripts.length] := rfl
      constructor
      · intro handler member
        have length : (session.perform (.setTerminal name reaction)).2.2.scripts.length =
            session.scripts.length + 1 := List.length_append
        rw [handlers] at member
        rcases List.mem_append.mp member with old | new
        · have known := distinct.known handler (items.subset old)
          omega
        · rw [List.mem_singleton.mp new]
          omega
      · rw [handlers]
        apply (List.perm_append_singleton _ _).nodup_iff.mpr
        apply List.nodup_cons.mpr
        exact ⟨fun member => fresh (items.subset member), distinct.once.sublist items⟩
  | clearTerminal =>
      have handlers : (session.perform .clearTerminal).2.2.chain.handlers =
          session.chain.interceptors.items := List.append_nil _
      apply distinct.of_sublist
      · rw [handlers]
        exact items
      · exact Nat.le_refl _
  | _ => exact distinct

theorem Distinct.step (distinct : session.Distinct) (frame : HookFrame) :
    (session.step frame).2.Distinct := by
  unfold HookSession.step
  split
  · rename_i handler exception
    obtain ⟨chain, _, names⟩ := session.call_keeps handler exception
    have length : (session.call handler exception).2.scripts.length = session.scripts.length := by
      simpa using congrArg List.length names
    apply distinct.of_sublist
    · rw [chain]
    · exact Nat.le_of_eq length.symm
  · exact distinct
  · exact distinct
  · exact distinct.perform _
  · exact ⟨distinct.known, distinct.once⟩
  · exact ⟨distinct.known, distinct.once⟩
  · exact ⟨distinct.known, distinct.once⟩

theorem Distinct.run (distinct : session.Distinct) (agenda : List HookFrame) :
    (session.run agenda).Distinct := by
  fun_induction HookSession.run session agenda with
  | case1 session => exact distinct
  | case2 session message later => exact distinct.step _
  | case3 session frame later plain ih => exact ih (distinct.step frame)

/-- A new session after steps that were taken one after the other, whatever became of them. -/
def history (steps : List HookStep) : HookSession := steps.foldl take {}

theorem distinct_history (steps : List HookStep) : (history steps).Distinct := by
  have start : HookSession.Distinct {} := ⟨List.forall_mem_nil _, .nil⟩
  have goesOn (session : HookSession) (distinct : session.Distinct) :
      (steps.foldl take session).Distinct := by
    induction steps generalizing session with
    | nil => exact distinct
    | cons next rest ih => exact ih _ (distinct.run _)
  exact goesOn {} start

/-! ### Errors that are handed to a chain -/

/-- Whoever hands an error over goes on after its passage, or learns of the panic. -/
theorem take_dispatch (session : HookSession) (exception : UncaughtException) :
    session.take (.dispatch exception) =
      { (session.pass exception session.chain.handlers).after with
        result := (session.pass exception session.chain.handlers).failure.elim .finished
          .panicked } := by
  have first : session.take (.dispatch exception) =
      session.run (calls session.chain.handlers exception ++
        [.conclude none .finished, .take none []]) := by
    have plain : ∀ message, HookFrame.take none [.dispatch exception] ≠ .panic message :=
      fun _ => HookFrame.noConfusion
    rw [take, run_plain plain, List.append_nil]
    rfl
  have last (before : HookSession) : before.run [.conclude none .finished, .take none []] =
      { before with result := .finished } := by
    rw [run_plain fun _ => HookFrame.noConfusion, HookSession.step, List.nil_append,
      run_plain fun _ => HookFrame.noConfusion, HookSession.step, List.nil_append, run]
  rw [first, run_calls]
  cases ended : (session.pass exception session.chain.handlers).failure with
  | none => exact last _
  | some message =>
      have told := result_pass ended
      simp only [Option.elim_some, ← told]

/-- The terminal handler runs if and only if every interceptor returns in its turn, and then
everybody runs once. Otherwise those run who come before the interceptor that panics, and it, and
nobody else; whoever handed the error over is told of the panic. -/
theorem terminal_runs_iff (steps : List HookStep) (exception : UncaughtException) {original : Nat}
    (terminal : (history steps).chain.terminal = some original) :
    let session := history steps
    let interceptors := session.chain.interceptors.items
    let passage := session.pass exception (interceptors ++ [original])
    session.take (.dispatch exception) =
        { passage.after with result := passage.failure.elim .finished .panicked } ∧
      (∃ notes, passage.after.notes = session.notes ++ notes ∧
        Noted (session.scripts.map HookScript.name) exception passage.called notes) ∧
      passage.called.Nodup ∧ passage.called <+: interceptors ++ [original] ∧
      (original ∈ passage.called ↔ (session.pass exception interceptors).failure = none) ∧
      ((session.pass exception interceptors).failure = none →
        passage.called = interceptors ++ [original]) ∧
      (∀ message, (session.pass exception interceptors).failure = some message →
        passage.failure = some message ∧ ∃ before culprit left,
          interceptors = before ++ culprit :: left ∧ passage.called = before ++ [culprit] ∧
          (session.pass exception before).failure = none ∧
          (session.pass exception before).after.ending [.call culprit exception] =
            some message) ∧
      (session.Returning → (session.pass exception interceptors).failure = none) := by
  intro session interceptors passage
  have handlers : session.chain.handlers = interceptors ++ [original] := by
    rw [HookChain.handlers, terminal]
    rfl
  have distinct := distinct_history steps
  have once : (interceptors ++ [original]).Nodup := handlers ▸ distinct.once
  have apart : original ∉ interceptors := by
    intro member
    exact (List.nodup_append.mp once).2.2 original member original (List.mem_singleton_self _) rfl
  have whole : passage = _ := session.pass_append exception interceptors [original]
  have finished (returned : (session.pass exception interceptors).failure = none) :
      passage.called = interceptors ++ [original] := by
    rw [whole, returned, Option.elim_none, called_finished returned]
    cases ended : (session.pass exception interceptors).after.ending
        [.call original exception] with
    | none =>
        rw [pass_returned ended]
        rfl
    | some message => rw [pass_panicked ended]
  have failed {message : String}
      (panicked : (session.pass exception interceptors).failure = some message) :
      passage = session.pass exception interceptors := by
    rw [whole, panicked, Option.elim_some]
  have begins : passage.called <+: interceptors ++ [original] := by
    cases ended : passage.failure with
    | none => exact (called_finished ended).symm ▸ List.prefix_rfl
    | some message =>
        obtain ⟨before, culprit, left, same, _, _, called⟩ := pass_failed ended
        rw [called, same]
        exact ⟨left, by simp⟩
  refine ⟨?_, ?_, once.sublist begins.sublist, begins, ?_, finished, ?_, ?_⟩
  · rw [take_dispatch, handlers]
  · apply pass_noted List.prefix_rfl
    rw [← handlers, List.length_map]
    exact distinct.known
  · constructor
    · intro member
      cases ended : (session.pass exception interceptors).failure with
      | none => rfl
      | some message =>
          obtain ⟨before, culprit, left, same, _, _, called⟩ := pass_failed ended
          rw [failed ended, called] at member
          refine absurd ?_ apart
          rw [same, List.append_cons]
          exact List.mem_append_left _ member
    · intro returned
      rw [finished returned]
      exact List.mem_append_right _ (List.mem_singleton_self _)
  · intro message panicked
    obtain ⟨before, culprit, left, same, returned, last, called⟩ := pass_failed panicked
    refine ⟨?_, before, culprit, left, same, ?_, returned, last⟩
    · rw [failed panicked, panicked]
    · rw [failed panicked, called]
  · exact fun returning => returning.pass exception interceptors

def ambush : List HookStep :=
  [.setTerminal "original" [], .install "first" [], .install "second" [.panic],
    .install "third" []]

theorem terminal_runs_iff_ambush :
    (history ambush).chain.terminal = some 0 ∧
      (history ambush).chain.interceptors.items = [1, 2, 3] ∧
      ((history ambush).pass { message := "boom" } [1, 2, 3, 0]).called = [1, 2] ∧
      0 ∉ ((history ambush).pass { message := "boom" } [1, 2, 3, 0]).called := by
  have terminal : (history ambush).chain.terminal = some 0 := by decide +kernel
  have items : (history ambush).chain.interceptors.items = [1, 2, 3] := by decide +kernel
  obtain ⟨_, _, _, _, runs, _⟩ := terminal_runs_iff ambush { message := "boom" } terminal
  rw [items] at runs
  refine ⟨terminal, items, by decide +kernel, fun member => ?_⟩
  have returned := runs.mp member
  have panicked : ((history ambush).pass { message := "boom" } [1, 2, 3]).failure =
      some "handler second failed" := by decide +kernel
  cases returned.symm.trans panicked

/-- After the panic of the first of two interceptors neither the second nor the terminal handler is
called. -/
theorem terminal_suppressed :
    let session := history
      [.setTerminal "original" [], .install "a" [.panic], .install "b" []]
    let dispatched := session.take (.dispatch { message := "boom" })
    session.chain.handlers = [1, 2, 0] ∧ session.chain.terminal = some 0 ∧
      dispatched.notes = [.called "a" "boom"] ∧
      dispatched.result = .panicked "handler a failed" ∧
      ¬∀ handler ∈ session.chain.handlers,
        (session.pass { message := "boom" } session.chain.handlers).called.count handler = 1 := by
  decide +kernel

end Telemetry.HookSession
