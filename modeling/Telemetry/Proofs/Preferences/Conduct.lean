import Telemetry.Proofs.Service.Operation

/-! What listeners do when they are told of a change. A listener takes the steps of its reaction,
which may add further listeners with reactions of their own; what is true of every step that is
still to be taken stays true as long as it holds of the steps of reactions, too. -/

namespace Telemetry

theorem StoreStep.stayOpen_iff (steps : List StoreStep) :
    StoreStep.stayOpen steps = true ↔ ∀ step ∈ steps, step.staysOpen = true := by
  induction steps with
  | nil => simp [StoreStep.stayOpen]
  | cons step rest ih =>
      simp only [StoreStep.stayOpen, Bool.and_eq_true, ih, List.forall_mem_cons]

theorem StoreStep.mem_split (steps : List StoreStep) :
    (∀ step ∈ (StoreStep.split steps).1, step ∈ steps) ∧
      ∀ rest, (StoreStep.split steps).2 = some rest → ∀ step ∈ rest, step ∈ steps := by
  fun_induction StoreStep.split steps with
  | case1 =>
      refine ⟨fun step member => member, ?_⟩
      intro rest left
      cases left
  | case2 rest =>
      refine ⟨fun step member => absurd member List.not_mem_nil, ?_⟩
      intro other same step member
      rw [← Option.some.inj same] at member
      exact List.mem_cons_of_mem _ member
  | case3 first rest _ ih =>
      obtain ⟨now, later⟩ := ih
      constructor
      · intro step member
        rcases List.mem_cons.mp member with rfl | there
        · exact List.mem_cons_self
        · exact List.mem_cons_of_mem first (now step there)
      · intro other left step member
        exact List.mem_cons_of_mem first (later other left step member)

/-- A kind of step that leaves the store in its place and is followed by reactions of the same
kind. -/
structure StoreStep.IsConduct (fits : StoreStep → Prop) : Prop where
  opens : ∀ step, fits step → step.staysOpen = true
  reacts : ∀ name awaited reaction, fits (.subscribe name awaited reaction) →
    ∀ step ∈ reaction, fits step

theorem StoreStep.isConduct_staysOpen : StoreStep.IsConduct (·.staysOpen = true) :=
  ⟨fun _ => id, fun _ _ reaction => (StoreStep.stayOpen_iff reaction).mp⟩

mutual

/-- The step is of the kind, and so are all steps of the reactions that it brings along. -/
def StoreStep.Wholly (kind : StoreStep → Prop) : StoreStep → Prop
  | .subscribe name awaited reaction =>
      kind (.subscribe name awaited reaction) ∧ StoreStep.AllWholly kind reaction
  | step => kind step

def StoreStep.AllWholly (kind : StoreStep → Prop) : List StoreStep → Prop
  | [] => True
  | step :: rest => step.Wholly kind ∧ StoreStep.AllWholly kind rest

end

namespace StoreStep

variable {kind : StoreStep → Prop}

theorem allWholly_iff (steps : List StoreStep) :
    AllWholly kind steps ↔ ∀ step ∈ steps, step.Wholly kind := by
  induction steps with
  | nil => simp [AllWholly]
  | cons step rest ih => simp only [AllWholly, ih, List.forall_mem_cons]

theorem Wholly.own {step : StoreStep} (wholly : step.Wholly kind) : kind step := by
  cases step with
  | subscribe name awaited reaction => exact wholly.1
  | _ => exact wholly

/-- A step of the kind that leaves the store in its place. -/
def Keeps (kind : StoreStep → Prop) (step : StoreStep) : Prop :=
  step.staysOpen = true ∧ step.Wholly kind

theorem isConduct_keeps : IsConduct (Keeps kind) := by
  refine ⟨fun _ => And.left, ?_⟩
  intro name awaited reaction keeps step member
  obtain ⟨stays, wholly⟩ := keeps
  exact ⟨(stayOpen_iff reaction).mp stays step member,
    (allWholly_iff reaction).mp wholly.2 step member⟩

end StoreStep

namespace StoreSession

/-- What a step does to a store that stays in its place: a value may change and is told, a
listener may come, or one may go that came in this way. -/
inductive Stepped (session : StoreSession) (next : StoreStep) :
    List StoreFrame → StoreSession → Prop where
  | aside (disk : Disk) (draws : Nat) : Stepped session next [] { session with disk, draws }
  | written (disk : Disk) (draws : Nat) (key : String) (value : Option Preference) :
      Stepped session next (tellings session.store.listeners.items key)
        { session with
          disk
          draws
          store.values := session.store.values.put key value }
  | subscribed (name : String) (awaited : Option String) (reaction : List StoreStep)
      (asked : next = .subscribe name awaited reaction) :
      Stepped session next []
        { session with
          store := session.store.subscribe (.scripted session.scripts.length)
          scripts := session.scripts ++ [⟨name, awaited, some reaction⟩]
          numbers := session.numbers ++ [session.store.listeners.next] }
  | unsubscribed (number : Nat) (known : number ∈ session.numbers) :
      Stepped session next [] { session with store := session.store.unsubscribe number }

theorem stepped_perform (session : StoreSession) (next : StoreStep)
    (stays : next.staysOpen = true) :
    ∃ frames result after, session.perform next = (frames, result, after) ∧
      Stepped session next frames after := by
  refine ⟨_, _, _, rfl, ?_⟩
  have same : Stepped session next [] session := .aside session.disk session.draws
  have write (draws : Nat) (key : String) (value : Option Preference) (success : StoreResult) :
      Stepped session next ({ session with draws }.write key value success).1
        ({ session with draws }.write key value success).2.2 := by
    rcases write_cases { session with draws } key value success with
      ⟨result, disk, written⟩ | ⟨disk, written⟩
    · rw [written]
      exact .aside disk draws
    · rw [written]
      exact .written disk draws key value
  cases next with
  | get key => exact same
  | getBoolean key => exact same
  | getText key => exact same
  | put key value => exact write session.draws key value .written
  | installationId =>
      dsimp only
      split
      · exact same
      · exact same
      · exact write _ _ _ _
  | subscribe name awaited reaction => exact .subscribed name awaited reaction rfl
  | unsubscribe index =>
      dsimp only
      split
      · exact same
      · rename_i number found
        exact .unsubscribed number (List.mem_of_getElem? found)
  | reopen => cases stays
  | inspect => exact same
  | place path entry =>
      dsimp only
      split
      · exact same
      · exact same
      · split
        · exact .aside _ session.draws
        · exact same
  | discard path =>
      dsimp only
      split
      · exact same
      · exact .aside _ session.draws
  | pause => exact same
  | senseless => exact same

def Obeys (fits : StoreStep → Prop) (session : StoreSession) : Prop :=
  ∀ script ∈ session.scripts, ∀ reaction, script.reaction = some reaction →
    ∀ step ∈ reaction, fits step

def Fits (fits : StoreStep → Prop) : StoreFrame → Prop
  | .take _ steps => ∀ step ∈ steps, fits step
  | _ => True

variable {fits : StoreStep → Prop} {session : StoreSession}

theorem fits_tellings (fits : StoreStep → Prop) (listeners : List Listener) (key : String) :
    ∀ frame ∈ tellings listeners key, Fits fits frame := by
  intro frame member
  obtain ⟨listener, _, rfl⟩ := List.mem_map.mp member
  trivial

theorem Stepped.tells {next : StoreStep} {frames : List StoreFrame} {after : StoreSession}
    (stepped : session.Stepped next frames after) (fits : StoreStep → Prop) :
    ∀ frame ∈ frames, Fits fits frame := by
  cases stepped with
  | written disk draws key value => exact fits_tellings fits _ key
  | _ => exact List.forall_mem_nil _

theorem Stepped.obeys {next : StoreStep} {frames : List StoreFrame} {after : StoreSession}
    (stepped : session.Stepped next frames after) (obeys : session.Obeys fits)
    (reacts : ∀ name awaited reaction, next = .subscribe name awaited reaction →
      ∀ step ∈ reaction, fits step) : after.Obeys fits := by
  cases stepped with
  | subscribed name awaited reaction asked =>
      intro script member later held
      rcases List.mem_append.mp member with old | new
      · exact obeys script old later held
      · rw [List.mem_singleton.mp new] at held
        rw [← Option.some.inj held]
        exact reacts name awaited reaction asked
  | _ => exact obeys

theorem tell_eq (session : StoreSession) (index : Nat) (key : String) :
    ∃ notes scripts, (session.tell index key).2 = { session with notes, scripts } := by
  unfold tell
  split
  · exact ⟨session.notes, session.scripts, rfl⟩
  · dsimp only
    split
    · exact ⟨_, session.scripts, rfl⟩
    · exact ⟨_, _, rfl⟩

theorem step_cases (session : StoreSession) (frame : StoreFrame) :
    (∃ name next rest, frame = .take name (next :: rest) ∧
        (session.step frame).2 = (session.perform next).2.2) ∨
      ∃ notes scripts deadlocked result,
        (session.step frame).2 = { session with notes, scripts, deadlocked, result } := by
  cases frame with
  | tell listener key =>
      cases listener with
      | scripted index =>
          obtain ⟨notes, scripts, told⟩ := session.tell_eq index key
          exact .inr ⟨notes, scripts, session.deadlocked, session.result, told⟩
      | service =>
          simp only [StoreSession.step]
          split
          · exact .inr ⟨session.notes, session.scripts, true, session.result, rfl⟩
          · exact .inr ⟨session.notes, session.scripts, session.deadlocked, session.result, rfl⟩
  | take name steps =>
      cases steps with
      | nil => exact .inr ⟨session.notes, session.scripts, session.deadlocked, session.result, rfl⟩
      | cons next rest => exact .inl ⟨name, next, rest, rfl, rfl⟩
  | conclude name result =>
      cases name with
      | none => exact .inr ⟨session.notes, session.scripts, session.deadlocked, result, rfl⟩
      | some name => exact .inr ⟨_, session.scripts, session.deadlocked, session.result, rfl⟩

theorem Obeys.tell (obeys : session.Obeys fits) (index : Nat) (key : String) :
    (session.tell index key).2.Obeys fits ∧
      ∀ frame ∈ (session.tell index key).1, Fits fits frame := by
  unfold StoreSession.tell
  split
  · exact ⟨obeys, List.forall_mem_nil _⟩
  · rename_i script found
    dsimp only
    split
    · exact ⟨obeys, List.forall_mem_nil _⟩
    · rename_i steps reaction
      have held : script.reaction = some steps := by
        unfold Script.reactionTo? at reaction
        split at reaction
        · exact reaction
        · split at reaction
          · exact reaction
          · cases reaction
      have asked := obeys script (List.mem_of_getElem? found) steps held
      obtain ⟨now, later⟩ := StoreStep.mem_split steps
      constructor
      · intro other member rest left
        rcases List.mem_or_eq_of_mem_set member with old | new
        · exact obeys other old rest left
        · rw [new] at left
          exact fun step there => asked step (later rest left step there)
      · intro frame member
        rw [List.mem_singleton.mp member]
        exact fun step there => asked step (now step there)

theorem Obeys.step (obeys : session.Obeys fits) (conduct : StoreStep.IsConduct fits)
    {frame : StoreFrame} (suits : Fits fits frame) :
    (session.step frame).2.Obeys fits ∧ ∀ next ∈ (session.step frame).1, Fits fits next := by
  cases frame with
  | tell listener key =>
      cases listener with
      | scripted index => exact obeys.tell index key
      | service =>
          simp only [StoreSession.step]
          split
          · exact ⟨obeys, List.forall_mem_nil _⟩
          · exact ⟨obeys, List.forall_mem_nil _⟩
  | take name steps =>
      cases steps with
      | nil => exact ⟨obeys, List.forall_mem_nil _⟩
      | cons next rest =>
          obtain ⟨first, others⟩ := List.forall_mem_cons.mp suits
          obtain ⟨frames, result, after, performed, stepped⟩ :=
            session.stepped_perform next (conduct.opens next first)
          simp only [StoreSession.step, performed]
          refine ⟨stepped.obeys obeys ?_, ?_⟩
          · rintro name awaited reaction rfl
            exact conduct.reacts name awaited reaction first
          · intro frame member
            rcases List.mem_append.mp member with told | later
            · exact stepped.tells fits frame told
            · simp only [List.mem_cons, List.not_mem_nil, or_false] at later
              rcases later with rfl | rfl
              · trivial
              · exact others
  | conclude name result =>
      cases name with
      | none => exact ⟨obeys, List.forall_mem_nil _⟩
      | some name => exact ⟨obeys, List.forall_mem_nil _⟩

theorem Obeys.run (obeys : session.Obeys fits) (conduct : StoreStep.IsConduct fits)
    (holds : StoreSession → Prop)
    (step : ∀ (session : StoreSession) (frame : StoreFrame), Fits fits frame → holds session →
      holds (session.step frame).2)
    {agenda : List StoreFrame} (suits : ∀ frame ∈ agenda, Fits fits frame)
    (start : holds session) : holds (session.run agenda) ∧ (session.run agenda).Obeys fits := by
  fun_induction StoreSession.run session agenda with
  | case1 session => exact ⟨start, obeys⟩
  | case2 session frame rest ih =>
      obtain ⟨first, others⟩ := List.forall_mem_cons.mp suits
      obtain ⟨kept, news⟩ := obeys.step conduct first
      exact ih kept (List.forall_mem_append.mpr ⟨news, others⟩) (step session frame first start)

theorem obtainId_eq (session : StoreSession) :
    session.obtainId.2 =
      (session.perform .installationId).2.2.run (session.perform .installationId).1 := by
  unfold obtainId
  dsimp only
  split <;> rfl

theorem Obeys.obtainId (obeys : session.Obeys fits) (conduct : StoreStep.IsConduct fits)
    (holds : StoreSession → Prop)
    (step : ∀ (session : StoreSession) (frame : StoreFrame), Fits fits frame → holds session →
      holds (session.step frame).2)
    (asked : holds (session.perform .installationId).2.2) :
    holds session.obtainId.2 ∧ session.obtainId.2.Obeys fits := by
  obtain ⟨frames, result, after, performed, stepped⟩ :=
    session.stepped_perform .installationId rfl
  have still : after.Obeys fits := by
    apply stepped.obeys obeys
    intro name awaited reaction same
    cases same
  rw [performed] at asked
  rw [obtainId_eq, performed]
  exact still.run conduct holds step (stepped.tells fits) asked

end StoreSession

end Telemetry
