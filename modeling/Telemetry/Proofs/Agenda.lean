import Telemetry.Agenda

/-! Accounts of what is done for an agenda. A frame is done by a step that may bring further frames,
which are done to their end before the next frame of the agenda is. So what was done is a forest: a
deed for every frame, with the deeds for the frames that it brought under it. -/

namespace Telemetry

theorem map_set_of_same {α β : Type} {look : α → β} {items : List α} {index : Nat} {old new : α}
    (found : items[index]? = some old) (same : look new = look old) :
    (items.set index new).map look = items.map look := by
  obtain ⟨within, rfl⟩ := List.getElem?_eq_some_iff.mp found
  have bound : index < (items.map look).length := by simpa using within
  rw [List.map_set, same, ← List.getElem_map look (h := bound)]
  exact List.set_getElem_self bound

variable {State Frame : Type}

inductive Deed (State Frame : Type) where
  | mk (state : State) (frame : Frame) (brought : List (Deed State Frame))

namespace Deed

def state : Deed State Frame → State
  | mk state _ _ => state

def frame : Deed State Frame → Frame
  | mk _ frame _ => frame

def brought : Deed State Frame → List (Deed State Frame)
  | mk _ _ brought => brought

mutual

/-- A deed and all deeds under it, in the order in which their frames were begun. -/
def whole : Deed State Frame → List (Deed State Frame)
  | mk state frame brought => mk state frame brought :: wholes brought

def wholes : List (Deed State Frame) → List (Deed State Frame)
  | [] => []
  | deed :: later => deed.whole ++ wholes later

end

/-- What is read off a past grows with every deed by what is read off the deed. -/
theorem filterMap_snoc {β : Type} (read? : Deed State Frame → Option β)
    (past : List (Deed State Frame)) (deed : Deed State Frame) :
    (past ++ [deed]).filterMap read? = past.filterMap read? ++ (read? deed).toList := by
  rw [List.filterMap_append]
  cases found : read? deed <;> simp [found]

end Deed

variable {step : State → Frame → List Frame × State}

/-- The deeds for the frames of an agenda, each begun where the one before it ended, lead from the
first state to the last. -/
inductive IsAccount (step : State → Frame → List Frame × State) :
    State → List Frame → List (Deed State Frame) → State → Prop where
  | done (state : State) : IsAccount step state [] [] state
  | deed {state between after : State} {frame : Frame} {rest : List Frame}
      {brought later : List (Deed State Frame)}
      (within : IsAccount step (step state frame).2 (step state frame).1 brought between)
      (beyond : IsAccount step between rest later after) :
      IsAccount step state (frame :: rest) (.mk state frame brought :: later) after

namespace IsAccount

variable {state after : State} {agenda first second : List Frame} {deeds : List (Deed State Frame)}

theorem frames (account : IsAccount step state agenda deeds after) :
    deeds.map Deed.frame = agenda := by
  induction account with
  | done => rfl
  | deed within beyond inner outer => simp only [List.map_cons, Deed.frame, outer]

theorem head_state (account : IsAccount step state agenda deeds after) :
    ∀ deed ∈ deeds.head?, deed.state = state := by
  cases account with
  | done => simp
  | deed within beyond => simp [Deed.state]

theorem split (account : IsAccount step state (first ++ second) deeds after) :
    ∃ early late between, deeds = early ++ late ∧ IsAccount step state first early between ∧
      IsAccount step between second late after := by
  induction first generalizing state deeds with
  | nil => exact ⟨[], deeds, state, rfl, .done state, account⟩
  | cons frame rest ih =>
      cases account with
      | deed within beyond =>
          obtain ⟨early, late, between, rfl, front, back⟩ := ih beyond
          exact ⟨_ :: early, late, between, rfl, .deed within front, back⟩

/-- A frame in front of an agenda is done when what it brings is done in front of the rest. -/
theorem of_step {frame : Frame} {rest : List Frame}
    (account : IsAccount step (step state frame).2 ((step state frame).1 ++ rest) deeds after) :
    ∃ brought later, deeds = brought ++ later ∧
      IsAccount step state (frame :: rest) (.mk state frame brought :: later) after := by
  obtain ⟨brought, later, between, rfl, within, beyond⟩ := account.split
  exact ⟨brought, later, rfl, .deed within beyond⟩

/-- What is brought by a deed of the account is accounted for in the same way. -/
theorem brought (account : IsAccount step state agenda deeds after) :
    ∀ deed ∈ Deed.wholes deeds, ∃ between,
      IsAccount step (step deed.state deed.frame).2 (step deed.state deed.frame).1 deed.brought
        between := by
  induction account with
  | done =>
      intro deed member
      cases member
  | deed within beyond inner outer =>
      intro deed member
      simp only [Deed.wholes, Deed.whole, List.cons_append, List.mem_cons, List.mem_append] at member
      rcases member with rfl | under | behind
      · exact ⟨_, within⟩
      · exact inner deed under
      · exact outer deed behind

/-- What every step keeps, of all that was begun before it and the state that it meets, holds at
every deed and in the end. -/
theorem preserves {Holds : List (Deed State Frame) → State → Prop} {Fits : State → Frame → Prop}
    (kept : ∀ {past state frame brought}, Holds past state → Fits state frame →
      Holds (past ++ [.mk state frame brought]) (step state frame).2 ∧
        (∀ next ∈ (step state frame).1, Fits (step state frame).2 next) ∧
        ∀ other, Fits state other → Fits (step state frame).2 other)
    (account : IsAccount step state agenda deeds after) {past : List (Deed State Frame)}
    (holds : Holds past state) (fits : ∀ frame ∈ agenda, Fits state frame) :
    Holds (past ++ Deed.wholes deeds) after ∧ (∀ other, Fits state other → Fits after other) ∧
      ∀ early deed late, Deed.wholes deeds = early ++ deed :: late →
        Holds (past ++ early) deed.state ∧ Fits deed.state deed.frame := by
  induction account generalizing past with
  | done state =>
      refine ⟨by simpa [Deed.wholes] using holds, fun _ => id, ?_⟩
      intro early deed late listed
      simp [Deed.wholes] at listed
  | deed within beyond inner outer =>
      rename_i state between after frame rest brought later
      obtain ⟨own, others⟩ := List.forall_mem_cons.mp fits
      obtain ⟨begun, news, still⟩ := @kept past state frame brought holds own
      obtain ⟨midway, passed, inside⟩ := inner begun news
      obtain ⟨ends, passes, outside⟩ := outer midway fun other member =>
        passed other (still other (others other member))
      simp only [Deed.wholes, Deed.whole, List.cons_append]
      refine ⟨by simpa using ends, fun other fit => passes other (passed other (still other fit)),
        ?_⟩
      intro early deed late listed
      -- the deed is the first one, stands under it or comes after it
      cases early with
      | nil =>
          obtain ⟨rfl, _⟩ := List.cons.inj listed
          simpa using ⟨holds, own⟩
      | cons head early =>
          rw [List.cons_append] at listed
          obtain ⟨rfl, behind⟩ := List.cons.inj listed
          rcases List.append_eq_append_iff.mp behind with ⟨more, split, rest_eq⟩ |
            ⟨more, split, rest_eq⟩
          · subst split
            simpa using outside more deed late rest_eq
          · cases more with
            | nil =>
                simp only [List.append_nil, List.nil_append] at split rest_eq
                subst split
                simpa using outside [] deed late rest_eq.symm
            | cons item more =>
                obtain ⟨rfl, _⟩ := List.cons.inj rest_eq
                simpa using inside early deed more split

end IsAccount

end Telemetry
