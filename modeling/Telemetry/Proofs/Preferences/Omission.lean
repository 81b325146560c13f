import Mathlib.Data.List.Forall2
import Telemetry.Proofs.Preferences.Conduct
import Telemetry.Proofs.Preferences.Writing

/-! A store in a file beside a store in memory. Whatever is asked of the two, the file only adds
writes that fail, and such a write might as well not have been asked for: a store in memory that is
spared these writes answers the same and tells the same listeners. -/

namespace Telemetry

/-- What any store can be asked for: reads, writes, comings and goings of listeners. -/
def StoreStep.IsPlain : StoreStep → Prop
  | .get _ | .getBoolean _ | .getText _ | .put _ _ | .subscribe _ _ _ | .unsubscribe _ => True
  | .pause => True
  | _ => False

/-- The disk did not let the step come to anything. -/
def StoreResult.isRefused : StoreResult → Bool
  | .failed (.disk _) => true
  | _ => false

inductive StoreEvent where
  | told (listener : Listener) (key : String)
  /-- A step comes to something; the name is that of the listener whose reaction it belongs to. -/
  | taken (name : Option String) (step : StoreStep) (result : StoreResult)

def StoreEvent.isRefused : StoreEvent → Bool
  | .told _ _ => false
  | .taken _ _ result => result.isRefused

def StoreStep.heading : StoreStep → StoreStep
  | .subscribe name awaited _ => .subscribe name awaited []
  | step => step

namespace StoreSession

def occurrence (session : StoreSession) : StoreFrame → List StoreEvent
  | .tell listener key => [.told listener key]
  | .take name (next :: _) => [.taken name next.heading (session.perform next).2.1]
  | _ => []

def history (session : StoreSession) (agenda : List StoreFrame) : List StoreEvent :=
  match agenda with
  | [] => []
  | frame :: rest =>
      session.occurrence frame ++ history (session.step frame).2 ((session.step frame).1 ++ rest)
termination_by session.weight agenda
decreasing_by exact weight_descends session frame rest

end StoreSession

/-- The second list is the first one with some writes left out, also in reactions. -/
inductive StoreStep.Thinned : List StoreStep → List StoreStep → Prop where
  | done : Thinned [] []
  | keep {rest kept : List StoreStep} (step : StoreStep) (later : Thinned rest kept) :
      Thinned (step :: rest) (step :: kept)
  | react {reaction shorter rest kept : List StoreStep} (name : String) (awaited : Option String)
      (within : Thinned reaction shorter) (later : Thinned rest kept) :
      Thinned (.subscribe name awaited reaction :: rest)
        (.subscribe name awaited shorter :: kept)
  | drop {rest kept : List StoreStep} (key : String) (value : Option Preference)
      (later : Thinned rest kept) : Thinned (.put key value :: rest) kept

inductive StoreStep.ThinnedRest : Option (List StoreStep) → Option (List StoreStep) → Prop where
  | spent : ThinnedRest none none
  | left {rest kept : List StoreStep} (thinned : Thinned rest kept) :
      ThinnedRest (some rest) (some kept)

structure Script.Thinned (script kept : Script) : Prop where
  name : kept.name = script.name
  awaited : kept.awaited = script.awaited
  reaction : StoreStep.ThinnedRest script.reaction kept.reaction

/-- The agenda without the writes that are left out, and without the conclusions of those that the
disk refused. -/
inductive StoreFrame.Thinned : List StoreFrame → List StoreFrame → Prop where
  | done : Thinned [] []
  | tell {rest kept : List StoreFrame} (listener : Listener) (key : String)
      (later : Thinned rest kept) :
      Thinned (.tell listener key :: rest) (.tell listener key :: kept)
  | take {steps fewer : List StoreStep} {rest kept : List StoreFrame} (name : Option String)
      (within : StoreStep.Thinned steps fewer) (later : Thinned rest kept) :
      Thinned (.take name steps :: rest) (.take name fewer :: kept)
  | conclude {result : StoreResult} {rest kept : List StoreFrame} (name : Option String)
      (accepted : result.isRefused = false) (later : Thinned rest kept) :
      Thinned (.conclude name result :: rest) (.conclude name result :: kept)
  | refuse {result : StoreResult} {rest kept : List StoreFrame} (name : Option String)
      (refused : result.isRefused = true) (later : Thinned rest kept) :
      Thinned (.conclude name result :: rest) kept

namespace StoreStep

theorem Thinned.refl (steps : List StoreStep) : Thinned steps steps := by
  induction steps with
  | nil => exact .done
  | cons step rest ih => exact .keep step ih

theorem ThinnedRest.refl (reaction : Option (List StoreStep)) : ThinnedRest reaction reaction := by
  cases reaction with
  | none => exact .spent
  | some steps => exact .left (.refl steps)

/-- The parts of a reaction, thinned one by one, are the parts of a thinned reaction. -/
theorem Thinned.join {steps now : List StoreStep} {later : Option (List StoreStep)}
    (first : Thinned (split steps).1 now) (second : ThinnedRest (split steps).2 later) :
    ∃ kept, Thinned steps kept ∧ split kept = (now, later) := by
  fun_induction StoreStep.split steps generalizing now with
  | case1 =>
      cases first
      cases second
      exact ⟨[], .done, rfl⟩
  | case2 rest =>
      cases first
      cases second with
      | left thinned => exact ⟨.pause :: _, .keep .pause thinned, rfl⟩
  | case3 step rest divides ih =>
      cases first with
      | keep _ thinned =>
          obtain ⟨kept, whole, parts⟩ := ih thinned second
          refine ⟨step :: kept, .keep step whole, ?_⟩
          rw [split, parts]
          exact divides
      | react name awaited within thinned =>
          obtain ⟨kept, whole, parts⟩ := ih thinned second
          refine ⟨.subscribe name awaited _ :: kept, .react name awaited within whole, ?_⟩
          rw [split, parts]
          exact StoreStep.noConfusion
      | drop key value thinned =>
          obtain ⟨kept, whole, parts⟩ := ih thinned second
          exact ⟨kept, .drop key value whole, parts⟩

end StoreStep

namespace StoreFrame

theorem Thinned.split {first second thinned : List StoreFrame}
    (whole : Thinned (first ++ second) thinned) :
    ∃ now later, thinned = now ++ later ∧ Thinned first now ∧ Thinned second later := by
  induction first generalizing thinned with
  | nil => exact ⟨[], thinned, rfl, .done, whole⟩
  | cons frame rest ih =>
      cases whole with
      | tell listener key tail =>
          obtain ⟨now, later, rfl, here, there⟩ := ih tail
          exact ⟨_ :: now, later, rfl, .tell listener key here, there⟩
      | take name within tail =>
          obtain ⟨now, later, rfl, here, there⟩ := ih tail
          exact ⟨_ :: now, later, rfl, .take name within here, there⟩
      | conclude name accepted tail =>
          obtain ⟨now, later, rfl, here, there⟩ := ih tail
          exact ⟨_ :: now, later, rfl, .conclude name accepted here, there⟩
      | refuse name refused tail =>
          obtain ⟨now, later, rfl, here, there⟩ := ih tail
          exact ⟨now, later, rfl, .refuse name refused here, there⟩

theorem Thinned.append {first now second later : List StoreFrame} (here : Thinned first now)
    (there : Thinned second later) : Thinned (first ++ second) (now ++ later) := by
  induction here with
  | done => exact there
  | tell listener key _ ih => exact .tell listener key ih
  | take name within _ ih => exact .take name within ih
  | conclude name accepted _ ih => exact .conclude name accepted ih
  | refuse name refused _ ih => exact .refuse name refused ih

theorem Thinned.tellings {listeners : List Listener} {key : String} {thinned : List StoreFrame}
    (whole : Thinned (StoreSession.tellings listeners key) thinned) :
    thinned = StoreSession.tellings listeners key := by
  induction listeners generalizing thinned with
  | nil =>
      cases whole
      rfl
  | cons listener rest ih =>
      cases whole with
      | tell _ _ tail => rw [ih tail]; rfl

theorem Thinned.accepted {listeners : List Listener} {key : String} {name : Option String}
    {result : StoreResult} {rest : List StoreStep} {thinned : List StoreFrame}
    (accepted : result.isRefused = false)
    (whole : Thinned (StoreSession.tellings listeners key ++
      [.conclude name result, .take name rest]) thinned) :
    ∃ kept, thinned = StoreSession.tellings listeners key ++
      [.conclude name result, .take name kept] ∧ StoreStep.Thinned rest kept := by
  obtain ⟨told, others, rfl, tellings, tail⟩ := whole.split
  cases tail with
  | conclude _ _ tail =>
      cases tail with
      | take _ within tail =>
          cases tail
          exact ⟨_, by rw [tellings.tellings], within⟩
  | refuse _ refused _ =>
      rw [accepted] at refused
      cases refused

theorem Thinned.refused {name : Option String} {result : StoreResult} {rest : List StoreStep}
    {thinned : List StoreFrame} (refused : result.isRefused = true)
    (whole : Thinned [.conclude name result, .take name rest] thinned) :
    ∃ kept, thinned = [.take name kept] ∧ StoreStep.Thinned rest kept := by
  cases whole with
  | conclude _ accepted _ =>
      rw [accepted] at refused
      cases refused
  | refuse _ _ tail =>
      cases tail with
      | take _ within tail =>
          cases tail
          exact ⟨_, rfl, within⟩

end StoreFrame

namespace Script

variable {scripts thinned : List Script}

theorem thinned_at (all : List.Forall₂ Script.Thinned scripts thinned) {index : Nat}
    {script : Script} (found : scripts[index]? = some script) :
    ∃ kept, thinned[index]? = some kept ∧ script.Thinned kept := by
  induction all generalizing index with
  | nil => cases found
  | cons here there ih =>
      cases index with
      | zero =>
          cases found
          exact ⟨_, rfl, here⟩
      | succ index => exact ih found

theorem thinned_last {script : Script}
    (all : List.Forall₂ Script.Thinned (scripts ++ [script]) thinned) :
    ∃ others kept, thinned = others ++ [kept] ∧ List.Forall₂ Script.Thinned scripts others ∧
      script.Thinned kept := by
  induction scripts generalizing thinned with
  | nil =>
      cases all with
      | cons here there =>
          cases there
          exact ⟨[], _, rfl, .nil, here⟩
  | cons first rest ih =>
      cases all with
      | cons here there =>
          obtain ⟨others, kept, rfl, left, last⟩ := ih there
          exact ⟨_ :: others, kept, rfl, .cons here left, last⟩

theorem thinned_set {index : Nat} {script changed kept : Script}
    (found : scripts[index]? = some script) (back : script.Thinned kept)
    (all : List.Forall₂ Script.Thinned (scripts.set index changed) thinned) :
    List.Forall₂ Script.Thinned scripts (thinned.set index kept) := by
  induction scripts generalizing index thinned with
  | nil => cases found
  | cons first rest ih =>
      cases index with
      | zero =>
          cases found
          cases all with
          | cons here there => exact .cons back there
      | succ index =>
          cases all with
          | cons here there => exact .cons here (ih found there)

theorem thinned_none (all : List.Forall₂ Script.Thinned scripts thinned) {index : Nat}
    (missing : scripts[index]? = none) : thinned[index]? = none := by
  rw [List.getElem?_eq_none_iff] at missing ⊢
  rw [← all.length_eq]
  exact missing

theorem reactionTo_eq (script : Script) (key : String) :
    script.reactionTo? key = if script.awaited.all (· == key) then script.reaction else none := by
  unfold Script.reactionTo?
  cases script.awaited with
  | none => rfl
  | some awaited => simp

theorem reactionTo_eq_some {script : Script} {key : String} {steps : List StoreStep}
    (reaction : script.reactionTo? key = some steps) :
    script.awaited.all (· == key) = true ∧ script.reaction = some steps := by
  rw [reactionTo_eq] at reaction
  split at reaction
  · rename_i turn
    exact ⟨turn, reaction⟩
  · cases reaction

theorem Thinned.silent {script kept : Script} {key : String} (thin : script.Thinned kept)
    (silent : script.reactionTo? key = none) : kept.reactionTo? key = none := by
  rw [reactionTo_eq] at silent ⊢
  rw [thin.awaited]
  split
  · rename_i turn
    rw [if_pos turn] at silent
    have alike := thin.reaction
    rw [silent] at alike
    cases left : kept.reaction with
    | none => rfl
    | some steps => rw [left] at alike; cases alike
  · rfl

end Script

namespace StoreSession

/-- The same store, but in memory. -/
structure Mirrors (session memory : StoreSession) : Prop where
  store : memory.store = { session.store with backing := .memory }
  numbers : memory.numbers = session.numbers

def Advances (session : StoreSession) (frames : List StoreFrame) (events : List StoreEvent)
    (after : StoreSession) (now : List StoreFrame) : Prop :=
  ∀ later, session.history (frames ++ later) = events ++ after.history (now ++ later) ∧
    session.run (frames ++ later) = after.run (now ++ later)

theorem advances_nothing (session : StoreSession) (frames : List StoreFrame) :
    session.Advances frames [] session frames := fun _ => ⟨rfl, rfl⟩

theorem advances_step (session : StoreSession) (frame : StoreFrame) :
    session.Advances [frame] (session.occurrence frame) (session.step frame).2
      (session.step frame).1 := by
  intro later
  constructor
  · rw [List.singleton_append, history]
  · rw [List.singleton_append, run]

/-- A frame can be done in memory, too, once it is thinned like what it leaves behind. -/
def Mirrored (session : StoreSession) (frame : StoreFrame) (now : List StoreFrame)
    (scripts : List Script) : Prop :=
  ∃ frames before, StoreFrame.Thinned [frame] frames ∧
    List.Forall₂ Script.Thinned session.scripts before ∧
    ∀ memory, session.Mirrors memory → memory.scripts = before →
      ∃ after, (session.step frame).2.Mirrors after ∧ after.scripts = scripts ∧
        memory.Advances frames ((session.occurrence frame).filter (!·.isRefused)) after now

variable {session memory : StoreSession} {now : List StoreFrame} {scripts : List Script}

theorem Mirrors.get (mirrors : session.Mirrors memory) (key : String) :
    memory.store.get? key = session.store.get? key := by
  rw [mirrors.store]
  rfl

theorem Mirrors.listeners (mirrors : session.Mirrors memory) :
    memory.store.listeners = session.store.listeners := by
  rw [mirrors.store]

theorem Mirrors.inMemory (mirrors : session.Mirrors memory) :
    memory.store.backing = .memory := by
  rw [mirrors.store]

theorem mirrored_take {name : Option String} {next : StoreStep} {rest : List StoreStep}
    {result : StoreResult} {after : StoreSession} (listeners : List Listener) (key : String)
    (performed : session.perform next = (tellings listeners key, result, after))
    (accepted : result.isRefused = false)
    (thinned : StoreFrame.Thinned (session.step (.take name (next :: rest))).1 now)
    (next' : StoreStep) (before : List Script)
    (steps : ∀ kept, StoreStep.Thinned rest kept → StoreStep.Thinned (next :: rest) (next' :: kept))
    (heading : next'.heading = next.heading)
    (earlier : List.Forall₂ Script.Thinned session.scripts before)
    (same : ∀ memory, session.Mirrors memory → memory.scripts = before →
      ∃ other, memory.perform next' = (tellings listeners key, result, other) ∧
        after.Mirrors other ∧ other.scripts = scripts) :
    session.Mirrored (.take name (next :: rest)) now scripts := by
  have stepped : session.step (.take name (next :: rest)) =
      (tellings listeners key ++ [.conclude name result, .take name rest], after) := by
    simp only [step, performed]
  rw [stepped] at thinned
  obtain ⟨kept, rfl, fewer⟩ := StoreFrame.Thinned.accepted accepted thinned
  refine ⟨[.take name (next' :: kept)], before, .take name (steps kept fewer) .done, earlier, ?_⟩
  intro memory mirrors held
  obtain ⟨other, there, mirrored, left⟩ := same memory mirrors held
  have advances := memory.advances_step (.take name (next' :: kept))
  have occurred : memory.occurrence (.take name (next' :: kept)) =
      (session.occurrence (.take name (next :: rest))).filter (!·.isRefused) := by
    simp [occurrence, performed, there, heading, StoreEvent.isRefused, accepted]
  have gone : memory.step (.take name (next' :: kept)) =
      (tellings listeners key ++ [.conclude name result, .take name kept], other) := by
    simp only [step, there]
  rw [occurred, gone] at advances
  rw [stepped]
  exact ⟨other, mirrored, left, advances⟩

theorem mirrored_refused {name : Option String} {key : String} {value : Option Preference}
    {rest : List StoreStep} {result : StoreResult} {disk : Disk}
    (performed : session.perform (.put key value) = ([], result, { session with disk }))
    (refused : result.isRefused = true)
    (thinned : StoreFrame.Thinned (session.step (.take name (.put key value :: rest))).1 now)
    (earlier : List.Forall₂ Script.Thinned session.scripts scripts) :
    session.Mirrored (.take name (.put key value :: rest)) now scripts := by
  have stepped : session.step (.take name (.put key value :: rest)) =
      ([.conclude name result, .take name rest], { session with disk }) := by
    simp only [step, performed, List.nil_append]
  rw [stepped] at thinned
  obtain ⟨kept, rfl, fewer⟩ := StoreFrame.Thinned.refused refused thinned
  refine ⟨_, scripts, .take name (.drop key value fewer) .done, earlier, ?_⟩
  intro memory mirrors held
  have unseen : (session.occurrence (.take name (.put key value :: rest))).filter
      (!·.isRefused) = [] := by
    simp [occurrence, performed, StoreEvent.isRefused, refused]
  rw [stepped, unseen]
  exact ⟨memory, ⟨mirrors.store, mirrors.numbers⟩, held, memory.advances_nothing _⟩

theorem mirrored_told {index : Nat} {key : String} {frames : List StoreFrame}
    {after : StoreSession} (told : session.tell index key = (frames, after)) (before : List Script)
    (earlier : List.Forall₂ Script.Thinned session.scripts before)
    (same : ∀ memory, session.Mirrors memory → memory.scripts = before →
      ∃ other, memory.tell index key = (now, other) ∧ after.Mirrors other ∧
        other.scripts = scripts) :
    session.Mirrored (.tell (.scripted index) key) now scripts := by
  refine ⟨[.tell (.scripted index) key], before, .tell _ _ .done, earlier, ?_⟩
  intro memory mirrors held
  obtain ⟨other, there, mirrored, left⟩ := same memory mirrors held
  have advances := memory.advances_step (.tell (.scripted index) key)
  simp only [step, there] at advances
  simp only [step, told]
  exact ⟨other, mirrored, left, advances⟩

theorem mirrored_tell {index : Nat} {key : String}
    (thinned : StoreFrame.Thinned (session.tell index key).1 now)
    (all : List.Forall₂ Script.Thinned (session.tell index key).2.scripts scripts) :
    session.Mirrored (.tell (.scripted index) key) now scripts := by
  cases found : session.scripts[index]? with
  | none =>
      have told : session.tell index key = ([], session) := by simp only [tell, found]
      rw [told] at thinned all
      cases thinned
      refine mirrored_told told scripts all ?_
      intro memory mirrors held
      refine ⟨memory, ?_, mirrors, held⟩
      simp only [tell, held, Script.thinned_none all found]
  | some script =>
      cases reaction : script.reactionTo? key with
      | none =>
          have told : session.tell index key =
              ([], { session with notes := session.notes ++ [.told script.name key] }) := by
            simp only [tell, found, reaction]
          rw [told] at thinned all
          cases thinned
          obtain ⟨kept, there, thin⟩ := Script.thinned_at all found
          refine mirrored_told told scripts all ?_
          intro memory mirrors held
          refine ⟨{ memory with notes := memory.notes ++ [.told kept.name key] }, ?_,
            ⟨mirrors.store, mirrors.numbers⟩, held⟩
          simp only [tell, held, there, thin.silent reaction]
      | some steps =>
          have told : session.tell index key =
              ([.take (some script.name) (StoreStep.split steps).1],
                { session with
                  notes := session.notes ++ [.told script.name key]
                  scripts := session.scripts.set index
                    { script with reaction := (StoreStep.split steps).2 } }) := by
            simp only [tell, found, reaction]
          rw [told] at thinned all
          have inside := (List.getElem?_eq_some_iff.mp found).1
          obtain ⟨later, there, thin⟩ := Script.thinned_at all (List.getElem?_set_self inside)
          obtain ⟨fewer, rfl, within⟩ : ∃ fewer, now = [.take (some script.name) fewer] ∧
              StoreStep.Thinned (StoreStep.split steps).1 fewer := by
            cases thinned with
            | take _ within tail =>
                cases tail
                exact ⟨_, rfl, within⟩
          -- the listener in memory still has both parts before it
          obtain ⟨whole, thinner, parts⟩ := within.join thin.reaction
          obtain ⟨turn, left⟩ := Script.reactionTo_eq_some reaction
          have back : script.Thinned { script with reaction := some whole } := by
            refine ⟨rfl, rfl, ?_⟩
            rw [left]
            exact .left thinner
          refine mirrored_told told _ (Script.thinned_set found back all) ?_
          intro memory mirrors held
          obtain ⟨inside, last⟩ := List.getElem?_eq_some_iff.mp there
          have left : { script with reaction := later.reaction } = later :=
            congrArg₂ (fun name awaited => (⟨name, awaited, later.reaction⟩ : Script))
              thin.name.symm thin.awaited.symm
          refine ⟨{ memory with notes := memory.notes ++ [.told script.name key], scripts }, ?_,
            ⟨mirrors.store, mirrors.numbers⟩, rfl⟩
          have here : memory.scripts[index]? = some { script with reaction := some whole } := by
            rw [held, List.getElem?_set_self inside]
          have again : memory.scripts.set index { script with reaction := later.reaction } =
              scripts := by
            rw [held, List.set_set, left, ← last, List.set_getElem_self]
          simp only [tell, here, Script.reactionTo_eq, turn, if_true, parts, again]

theorem conclude_eq (session : StoreSession) (name : Option String) (result : StoreResult) :
    ∃ notes last, session.step (.conclude name result) =
      ([], { session with notes, result := last }) := by
  cases name with
  | none => exact ⟨session.notes, result, rfl⟩
  | some name => exact ⟨_, session.result, rfl⟩

theorem mirrored_reads {name : Option String} {next : StoreStep} {rest : List StoreStep}
    {result : StoreResult} (accepted : result.isRefused = false)
    (here : session.perform next = ([], result, session))
    (there : ∀ memory, session.Mirrors memory → memory.perform next = ([], result, memory))
    (thinned : StoreFrame.Thinned (session.step (.take name (next :: rest))).1 now)
    (all : List.Forall₂ Script.Thinned (session.step (.take name (next :: rest))).2.scripts
      scripts) :
    session.Mirrored (.take name (next :: rest)) now scripts := by
  simp only [step, here] at all
  exact mirrored_take [] "" here accepted thinned next scripts (fun _ => .keep next) rfl all
    (fun memory mirrors held => ⟨memory, there memory mirrors, mirrors, held⟩)

theorem mirrored_put {name : Option String} {key : String} {value : Option Preference}
    {rest : List StoreStep}
    (thinned : StoreFrame.Thinned (session.step (.take name (.put key value :: rest))).1 now)
    (all : List.Forall₂ Script.Thinned
      (session.step (.take name (.put key value :: rest))).2.scripts scripts) :
    session.Mirrored (.take name (.put key value :: rest)) now scripts := by
  have writing : session.Writing key value .written (session.perform (.put key value)) :=
    session.writing_write key value .written
  generalize performed : session.perform (.put key value) = outcome at writing
  cases writing with
  | unchanged same =>
      refine mirrored_reads rfl performed ?_ thinned all
      intro memory mirrors
      rw [← mirrors.get] at same
      simp only [perform, write, memory.store.put_same memory.disk same]
      rfl
  | failed other disk cause =>
      simp only [step, performed] at all
      exact mirrored_refused performed rfl thinned all
  | written other disk =>
      simp only [step, performed] at all
      refine mirrored_take _ _ performed rfl thinned _ scripts (fun _ => .keep _) rfl all ?_
      intro memory mirrors held
      rw [← mirrors.get] at other
      refine ⟨{ memory with store.values := memory.store.values.put key value }, ?_,
        ⟨?_, mirrors.numbers⟩, held⟩
      · rw [← mirrors.listeners]
        exact put_inMemory mirrors.inMemory other
      · rw [mirrors.store]

theorem mirrored_subscribe {name : Option String} {other : String} {awaited : Option String}
    {reaction rest : List StoreStep}
    (thinned : StoreFrame.Thinned
      (session.step (.take name (.subscribe other awaited reaction :: rest))).1 now)
    (all : List.Forall₂ Script.Thinned
      (session.step (.take name (.subscribe other awaited reaction :: rest))).2.scripts scripts) :
    session.Mirrored (.take name (.subscribe other awaited reaction :: rest)) now scripts := by
  simp only [step, perform] at all
  obtain ⟨others, kept, rfl, earlier, last⟩ := Script.thinned_last all
  obtain ⟨shorter, rfl, within⟩ : ∃ shorter, kept = ⟨other, awaited, some shorter⟩ ∧
      StoreStep.Thinned reaction shorter := by
    obtain ⟨name, awaits, left⟩ := kept
    obtain ⟨rfl, rfl, rest⟩ := last
    cases rest with
    | left within => exact ⟨_, rfl, within⟩
  refine mirrored_take [] "" rfl rfl thinned
    (.subscribe other awaited shorter) others (fun _ => .react other awaited within) rfl
    earlier ?_
  intro memory mirrors held
  refine ⟨(memory.perform (.subscribe other awaited shorter)).2.2, ?_, ⟨?_, ?_⟩, ?_⟩
  · simp only [perform, mirrors.listeners, tellings, List.map_nil]
  · simp only [perform, held, mirrors.store, ← earlier.length_eq]
    rfl
  · simp only [perform, mirrors.listeners, mirrors.numbers]
  · simp only [perform, held]

theorem mirrored_unsubscribe {name : Option String} {index : Nat} {rest : List StoreStep}
    (thinned : StoreFrame.Thinned (session.step (.take name (.unsubscribe index :: rest))).1 now)
    (all : List.Forall₂ Script.Thinned
      (session.step (.take name (.unsubscribe index :: rest))).2.scripts scripts) :
    session.Mirrored (.take name (.unsubscribe index :: rest)) now scripts := by
  cases found : session.numbers[index]? with
  | none =>
      have absent : session.perform (.unsubscribe index) = ([], .senseless, session) := by
        simp only [perform, found]
      refine mirrored_reads rfl absent ?_ thinned all
      intro memory mirrors
      simp only [perform, mirrors.numbers, found]
  | some number =>
      have performed : session.perform (.unsubscribe index) =
          ([], .unsubscribed (session.store.listeners.holds number),
            { session with store := session.store.unsubscribe number }) := by
        simp only [perform, found]
      simp only [step, performed] at all
      refine mirrored_take [] "" performed rfl thinned _ scripts (fun _ => .keep _) rfl all ?_
      intro memory mirrors held
      refine ⟨{ memory with store := memory.store.unsubscribe number }, ?_,
        ⟨?_, mirrors.numbers⟩, held⟩
      · simp only [perform, mirrors.numbers, found, mirrors.listeners]
        rfl
      · rw [mirrors.store]
        rfl

/-- Every plain step can be taken in memory, too, unless it is a write that the disk refuses. -/
theorem mirrored_perform {name : Option String} {next : StoreStep} {rest : List StoreStep}
    (plain : next.IsPlain)
    (thinned : StoreFrame.Thinned (session.step (.take name (next :: rest))).1 now)
    (all : List.Forall₂ Script.Thinned (session.step (.take name (next :: rest))).2.scripts
      scripts) :
    session.Mirrored (.take name (next :: rest)) now scripts := by
  cases next with
  | get key =>
      refine mirrored_reads rfl rfl ?_ thinned all
      intro memory mirrors
      simp only [perform, mirrors.get]
  | getBoolean key =>
      refine mirrored_reads ?_ rfl ?_ thinned all
      · unfold Store.getBoolean
        split <;> rfl
      · intro memory mirrors
        simp only [perform, Store.getBoolean, mirrors.get]
  | getText key =>
      refine mirrored_reads ?_ rfl ?_ thinned all
      · unfold Store.getText
        split <;> rfl
      · intro memory mirrors
        simp only [perform, Store.getText, mirrors.get]
  | pause => exact mirrored_reads rfl rfl (fun _ _ => rfl) thinned all
  | put key value => exact mirrored_put thinned all
  | subscribe other awaited reaction => exact mirrored_subscribe thinned all
  | unsubscribe index => exact mirrored_unsubscribe thinned all
  | _ => cases plain

theorem mirrored_step {frame : StoreFrame} (suits : Fits (StoreStep.Keeps StoreStep.IsPlain) frame)
    (thinned : StoreFrame.Thinned (session.step frame).1 now)
    (all : List.Forall₂ Script.Thinned (session.step frame).2.scripts scripts) :
    session.Mirrored frame now scripts := by
  cases frame with
  | tell listener key =>
      cases listener with
      | scripted index => exact mirrored_tell thinned all
      | service =>
          cases thinned
          refine ⟨[.tell .service key], scripts, .tell _ _ .done, ?_, ?_⟩
          · simp only [step] at all
            split at all
            · exact all
            · exact all
          · intro memory mirrors held
            refine ⟨(memory.step (.tell .service key)).2, ?_, ?_,
              memory.advances_step (.tell .service key)⟩
            · simp only [step]
              split
              · exact ⟨mirrors.store, mirrors.numbers⟩
              · exact mirrors
            · simp only [step]
              split
              · exact held
              · exact held
  | conclude name result =>
      obtain ⟨notes, last, stepped⟩ := session.conclude_eq name result
      rw [stepped] at thinned all
      cases thinned
      cases known : result.isRefused with
      | true =>
          refine ⟨[], scripts, .refuse name known .done, all, ?_⟩
          intro memory mirrors held
          rw [stepped]
          exact ⟨memory, ⟨mirrors.store, mirrors.numbers⟩, held, memory.advances_nothing []⟩
      | false =>
          refine ⟨[.conclude name result], scripts, .conclude name known .done, all, ?_⟩
          intro memory mirrors held
          obtain ⟨others, other, there⟩ := memory.conclude_eq name result
          have advances := memory.advances_step (.conclude name result)
          rw [there] at advances
          rw [stepped]
          exact ⟨{ memory with notes := others, result := other },
            ⟨mirrors.store, mirrors.numbers⟩, held, advances⟩
  | take name steps =>
      cases steps with
      | nil =>
          cases thinned
          refine ⟨[.take name []], scripts, .take name .done .done, all, ?_⟩
          intro memory mirrors held
          exact ⟨memory, mirrors, held, memory.advances_step (.take name [])⟩
      | cons next rest =>
          obtain ⟨_, wholly⟩ := suits next List.mem_cons_self
          exact mirrored_perform wholly.own thinned all

/-- Along a whole run a store in memory that is spared the refused writes keeps up. -/
theorem mirrored_run {agenda : List StoreFrame}
    (plain : session.Obeys (StoreStep.Keeps StoreStep.IsPlain))
    (suits : ∀ frame ∈ agenda, Fits (StoreStep.Keeps StoreStep.IsPlain) frame) :
    ∃ frames before, StoreFrame.Thinned agenda frames ∧
      List.Forall₂ Script.Thinned session.scripts before ∧
      ∀ memory, session.Mirrors memory → memory.scripts = before →
        memory.history frames = (session.history agenda).filter (!·.isRefused) ∧
        (session.run agenda).Mirrors (memory.run frames) := by
  fun_induction StoreSession.run session agenda with
  | case1 session =>
      refine ⟨[], session.scripts, .done, ?_, ?_⟩
      · exact List.forall₂_same.mpr fun script _ => ⟨rfl, rfl, .refl _⟩
      · intro memory mirrors _
        rw [history, history, run]
        exact ⟨rfl, mirrors⟩
  | case2 session frame rest ih =>
      obtain ⟨first, others⟩ := List.forall_mem_cons.mp suits
      obtain ⟨kept, news⟩ := plain.step StoreStep.isConduct_keeps first
      obtain ⟨frames, scripts, thinned, thinner, follows⟩ :=
        ih kept (List.forall_mem_append.mpr ⟨news, others⟩)
      obtain ⟨now, later, rfl, here, there⟩ := thinned.split
      obtain ⟨fewer, before, start, earlier, mirrored⟩ := mirrored_step first here thinner
      refine ⟨fewer ++ later, before, start.append there, earlier, ?_⟩
      intro memory mirrors held
      obtain ⟨after, reached, left, advances⟩ := mirrored memory mirrors held
      obtain ⟨happened, ran⟩ := advances later
      obtain ⟨events, ends⟩ := follows after reached left
      rw [happened, ran, events, history, List.filter_append]
      exact ⟨rfl, ends⟩

/-- The same store in memory, with listeners that may have been spared some writes. -/
def inMemory (session : StoreSession) (scripts : List Script) : StoreSession :=
  { session with store.backing := .memory, scripts }

/-- From the steps, and from the reactions of the listeners, only writes are left out. Done in
memory, the rest comes to what all of it comes to, in the same order, save the refused writes. -/
structure Spares (session : StoreSession) (steps kept : List StoreStep) (scripts : List Script) :
    Prop where
  asked : StoreStep.Thinned steps kept
  reactions : List.Forall₂ Script.Thinned session.scripts scripts
  events : (session.inMemory scripts).history [.take none kept] =
    (session.history [.take none steps]).filter (!·.isRefused)
  values : ((session.inMemory scripts).run [.take none kept]).store.values =
    (session.run [.take none steps]).store.values
  listeners : ((session.inMemory scripts).run [.take none kept]).store.listeners =
    (session.run [.take none steps]).store.listeners

/-- A store in a file does what a store in memory does that is spared the writes which the disk
refuses: all reads, all registrations and all calls of listeners are the same. A write that fails
leaves the store as it is and tells nobody. -/
theorem refused_writes_left_out {session : StoreSession} {steps : List StoreStep}
    (plain : session.Obeys (StoreStep.Keeps StoreStep.IsPlain))
    (suits : ∀ step ∈ steps, step.Keeps StoreStep.IsPlain) :
    (∃ kept scripts, session.Spares steps kept scripts) ∧
      ∀ (between : StoreSession) (key : String) (value : Option Preference)
        (fault : PreferenceFault), (between.perform (.put key value)).2.1 = .failed fault →
        (between.perform (.put key value)).1 = [] ∧
          (between.perform (.put key value)).2.2.store = between.store := by
  constructor
  · have asked : ∀ frame ∈ [StoreFrame.take none steps],
        Fits (StoreStep.Keeps StoreStep.IsPlain) frame := List.forall_mem_singleton.mpr suits
    obtain ⟨frames, scripts, thinned, thinner, follows⟩ := mirrored_run plain asked
    cases thinned with
    | take _ within tail =>
        cases tail
        obtain ⟨events, ends⟩ := follows (session.inMemory scripts) ⟨rfl, rfl⟩ rfl
        exact ⟨_, scripts, within, thinner, events, by rw [ends.store], by rw [ends.listeners]⟩
  · intro between key value fault failed
    have writing : between.Writing key value .written (between.perform (.put key value)) :=
      between.writing_write key value .written
    generalize between.perform (.put key value) = outcome at writing failed
    cases writing with
    | unchanged same => cases failed
    | failed other disk cause => exact ⟨rfl, rfl⟩
    | written other disk => cases failed

def reluctant : StoreSession :=
  { store.backing := .file "/preferences.toml"
    disk.answers := [.torn 0, .allowed, .allowed, .refused] }

def reluctantSteps : List StoreStep :=
  [.subscribe "keeper" (some "b") [.put "c" (some (.boolean true)), .getBoolean "b"],
    .put "a" (some (.text "x")), .put "b" (some (.boolean true)), .get "a", .unsubscribe 0]

/-- One write of the caller and one of the listener are refused. -/
theorem refused_writes_left_out_reluctant :
    (reluctant.history [.take none reluctantSteps]).countP (·.isRefused) = 2 ∧
      reluctant.Obeys (StoreStep.Keeps StoreStep.IsPlain) ∧
      (∀ step ∈ reluctantSteps, step.Keeps StoreStep.IsPlain) ∧
      ∃ kept scripts, reluctant.Spares reluctantSteps kept scripts := by
  have plain : reluctant.Obeys (StoreStep.Keeps StoreStep.IsPlain) := List.forall_mem_nil _
  have suits : ∀ step ∈ reluctantSteps, step.Keeps StoreStep.IsPlain := by
    simp [reluctantSteps, StoreStep.Keeps, StoreStep.staysOpen, StoreStep.stayOpen,
      StoreStep.Wholly, StoreStep.AllWholly, StoreStep.IsPlain]
  exact ⟨by decide +kernel, plain, suits, (refused_writes_left_out plain suits).1⟩

end StoreSession

end Telemetry
