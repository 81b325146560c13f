import Mathlib.Data.List.TakeWhile
import Telemetry.Proofs.Preferences.Identification

/-! Listeners that only look. Steps that write nothing tell nobody, so a run of them leaves the
contents of the store as they are, whoever comes or goes among the listeners. -/

namespace Telemetry

namespace StoreStep

def writes : StoreStep → Bool
  | .put _ _ | .installationId => true
  | _ => false

def Reads : StoreStep → Prop := Wholly (·.writes = false)

def Looks : StoreStep → Prop := Keeps (·.writes = false)

end StoreStep

namespace StoreSession

/-- The values are the same, and nobody waits for himself who did not before. -/
structure SameContents (before after : StoreSession) : Prop where
  values : after.store.values = before.store.values
  deadlocked : after.deadlocked = before.deadlocked

variable {before between after session : StoreSession}

theorem SameContents.refl (session : StoreSession) : session.SameContents session :=
  ⟨rfl, rfl⟩

theorem SameContents.trans (first : before.SameContents between)
    (second : between.SameContents after) : before.SameContents after where
  values := second.values.trans first.values
  deadlocked := second.deadlocked.trans first.deadlocked

theorem SameContents.get (same : before.SameContents after) (key : String) :
    after.store.get? key = before.store.get? key := by
  unfold Store.get?
  rw [same.values]

theorem contents_perform (session : StoreSession) {next : StoreStep} (looks : next.Looks) :
    (session.perform next).1 = [] ∧ session.SameContents (session.perform next).2.2 := by
  obtain ⟨stays, wholly⟩ := looks
  have reads := wholly.own
  cases next with
  | put key value => cases reads
  | installationId => cases reads
  | reopen => cases stays
  | unsubscribe index =>
      simp only [perform]
      split
      · exact ⟨rfl, .refl session⟩
      · exact ⟨rfl, rfl, rfl⟩
  | place path entry =>
      simp only [perform]
      split
      · exact ⟨rfl, .refl session⟩
      · exact ⟨rfl, .refl session⟩
      · split
        · exact ⟨rfl, rfl, rfl⟩
        · exact ⟨rfl, .refl session⟩
  | discard path =>
      simp only [perform]
      split
      · exact ⟨rfl, .refl session⟩
      · exact ⟨rfl, rfl, rfl⟩
  | _ => exact ⟨rfl, rfl, rfl⟩

/-- A frame that writes nothing, and does not tell the service of the choice. -/
def Quiet (frame : StoreFrame) : Prop :=
  Fits StoreStep.Looks frame ∧ frame ≠ .tell .service optInKey

theorem contents_step (session : StoreSession) {frame : StoreFrame} (quiet : Quiet frame) :
    session.SameContents (session.step frame).2 ∧
      ∀ listener key, .tell listener key ∉ (session.step frame).1 := by
  obtain ⟨suits, untold⟩ := quiet
  cases frame with
  | tell listener key =>
      cases listener with
      | scripted index =>
          obtain ⟨notes, scripts, told⟩ := session.tell_eq index key
          refine ⟨?_, ?_⟩
          · simp only [step, told]
            exact ⟨rfl, rfl⟩
          · intro listener other member
            simp only [step, tell] at member
            split at member
            · cases member
            · split at member
              · cases member
              · cases List.mem_singleton.mp member
      | service =>
          have other : key ≠ optInKey := by
            rintro rfl
            exact untold rfl
          simp only [step, if_neg other]
          exact ⟨.refl session, fun _ _ => List.not_mem_nil⟩
  | take name steps =>
      cases steps with
      | nil => exact ⟨.refl session, fun _ _ => List.not_mem_nil⟩
      | cons next rest =>
          obtain ⟨nobody, same⟩ :=
            session.contents_perform (suits next List.mem_cons_self)
          refine ⟨same, ?_⟩
          intro listener key member
          simp only [step, nobody, List.nil_append, List.mem_cons, List.not_mem_nil, or_false,
            reduceCtorEq] at member
  | conclude name result =>
      cases name with
      | none => exact ⟨⟨rfl, rfl⟩, fun _ _ => List.not_mem_nil⟩
      | some name => exact ⟨⟨rfl, rfl⟩, fun _ _ => List.not_mem_nil⟩

theorem Obeys.quiet_step (obeys : session.Obeys StoreStep.Looks)
    {frame : StoreFrame} (quiet : Quiet frame) :
    (session.step frame).2.Obeys StoreStep.Looks ∧
      ∀ next ∈ (session.step frame).1, Quiet next := by
  obtain ⟨kept, news⟩ := obeys.step StoreStep.isConduct_keeps quiet.1
  refine ⟨kept, fun next member => ⟨news next member, ?_⟩⟩
  rintro rfl
  exact (session.contents_step quiet).2 .service optInKey member

theorem Obeys.quiet_run (obeys : session.Obeys StoreStep.Looks)
    {agenda : List StoreFrame} (quiet : ∀ frame ∈ agenda, Quiet frame) :
    session.SameContents (session.run agenda) ∧
      (session.run agenda).Obeys StoreStep.Looks := by
  fun_induction StoreSession.run session agenda with
  | case1 session => exact ⟨.refl session, obeys⟩
  | case2 session frame rest ih =>
      obtain ⟨first, others⟩ := List.forall_mem_cons.mp quiet
      obtain ⟨kept, news⟩ := obeys.quiet_step first
      obtain ⟨same, still⟩ := ih kept (List.forall_mem_append.mpr ⟨news, others⟩)
      exact ⟨(session.contents_step first).1.trans same, still⟩

theorem quiet_tellings {listeners : List Listener} {key : String}
    (unheard : .service ∉ listeners ∨ key ≠ optInKey) :
    ∀ frame ∈ tellings listeners key, Quiet frame := by
  intro frame member
  refine ⟨fits_tellings _ listeners key frame member, ?_⟩
  rintro rfl
  obtain ⟨listener, there, same⟩ := List.mem_map.mp member
  cases same
  exact unheard.elim (· there) (· rfl)

theorem Quiet.staysOpen {frame : StoreFrame} (quiet : Quiet frame) : StaysOpen frame := by
  rw [staysOpen_iff]
  cases frame with
  | take name steps => exact fun step member => (quiet.1 step member).1
  | _ => trivial

/-- Those who listen before the service have been told of the choice, and the service is next. -/
def heard (session : StoreSession) : StoreSession :=
  session.run (tellings (session.store.listeners.items.takeWhile (· ≠ .service)) optInKey)

theorem quiet_heard (listeners : List Listener) :
    ∀ frame ∈ tellings (listeners.takeWhile (· ≠ .service)) optInKey, Quiet frame := by
  refine quiet_tellings (.inl fun member => ?_)
  have other := List.mem_takeWhile_imp member
  simp at other

theorem Obeys.heard (obeys : session.Obeys StoreStep.Looks) :
    session.SameContents session.heard ∧ session.heard.Obeys StoreStep.Looks :=
  obeys.quiet_run (quiet_heard _)

/-- Among listeners that only look nothing but the installation id is written when it is asked
for, and nobody has to wait for himself. -/
theorem Obeys.quiet_obtainId (obeys : session.Obeys StoreStep.Looks) :
    session.obtainId.2.store.get? optInKey = session.store.get? optInKey ∧
      session.obtainId.2.deadlocked = session.deadlocked ∧
      session.obtainId.2.Obeys StoreStep.Looks := by
  have obtaining := session.obtaining_obtainId
  generalize session.obtainId = outcome at obtaining ⊢
  cases obtaining with
  | unreadable known => exact ⟨rfl, rfl, obeys⟩
  | stored known => exact ⟨rfl, rfl, obeys⟩
  | unstored known disk cause => exact ⟨rfl, rfl, obeys⟩
  | made known disk =>
      have apart : installationKey ≠ optInKey := by decide
      have still : ({ session with
          disk
          draws := session.draws + 1
          store.values := session.store.values.put installationKey
            (some (.text (drawnIdentifier session.draws))) } : StoreSession).Obeys
          StoreStep.Looks := obeys
      obtain ⟨same, kept⟩ := still.quiet_run (quiet_tellings (.inr apart))
      have other := Values.get_put_other apart
        (some (.text (drawnIdentifier session.draws))) session.store.values
      exact ⟨(same.get optInKey).trans other, same.deadlocked, kept⟩

end StoreSession

end Telemetry
