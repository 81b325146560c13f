import Telemetry.Proofs.Preferences.Guard

/-! The installation id among the preferences. A stored value that is of use as an id, or of no use
but not blank either, stays as it is as long as nobody writes under its key but whoever asks for
the id. -/

namespace Telemetry

open Telemetry.Text

theorem not_blank_drawnIdentifier (draw : Nat) : ¬IsBlankText (drawnIdentifier draw) := by
  intro blank
  have dash : '-' ∈ (drawnIdentifier draw).toList := by
    unfold drawnIdentifier identifierOf
    rw [String.toList_ofList]
    simp [List.intercalate, List.intersperse]
  exact absurd (blank '-' dash) (by decide)

/-- A stored value that no installation id is put in the place of. -/
def Preference.IsSettled : Preference → Prop
  | .boolean _ => True
  | .text written => ¬IsBlankText written

namespace Store

variable {α : Type} {store : Store α}

theorem installationId_eq_some {id : String} :
    store.installationId? = .ok (some id) ↔
      store.get? installationKey = some (.text id) ∧ ¬IsBlankText id := by
  unfold installationId? getText
  cases stored : store.get? installationKey with
  | none => simp [Except.map]
  | some value =>
      cases value with
      | boolean flag => simp [Except.map]
      | text text =>
          by_cases blank : IsBlankText text
          · simp only [Except.map, Option.filter, blank, decide_true, Bool.not_true,
              Bool.false_eq_true, if_false, Except.ok.injEq, reduceCtorEq, Option.some.injEq,
              Preference.text.injEq, false_iff, not_and, not_not]
            rintro rfl
            exact blank
          · simp only [Except.map, Option.filter, blank, decide_false, Bool.not_false, if_true,
              Except.ok.injEq, Option.some.injEq, Preference.text.injEq]
            constructor
            · rintro rfl
              exact ⟨rfl, blank⟩
            · exact And.left

theorem installationId_boolean {flag : Bool}
    (stored : store.get? installationKey = some (.boolean flag)) :
    store.installationId? = .error (.otherKind installationKey .text) := by
  unfold installationId? getText
  rw [stored]
  rfl

theorem installationId_error {fault : PreferenceFault}
    (unreadable : store.installationId? = .error fault) :
    fault = .otherKind installationKey .text := by
  unfold installationId? getText at unreadable
  split at unreadable
  · cases unreadable
  · cases unreadable
  · cases unreadable
    rfl

theorem installationId_settled {value : Preference} (settled : value.IsSettled)
    (stored : store.get? installationKey = some value) : store.installationId? ≠ .ok none := by
  cases value with
  | boolean flag =>
      rw [installationId_boolean stored]
      intro same
      cases same
  | text id =>
      rw [installationId_eq_some.mpr ⟨stored, settled⟩]
      intro same
      cases same

end Store

namespace StoreSession

variable {session : StoreSession}

/-- What comes of asking for an installation id. One that is stored is left alone; a new one is
stored and told before anybody gets it, and if it cannot be stored, nobody does. -/
inductive Obtaining (session : StoreSession) :
    Except PreferenceFault String × StoreSession → Prop where
  | unreadable {fault : PreferenceFault} (known : session.store.installationId? = .error fault) :
      Obtaining session (.error fault, session)
  | stored {id : String} (known : session.store.installationId? = .ok (some id)) :
      Obtaining session (.ok id, session)
  | unstored (known : session.store.installationId? = .ok none) (disk : Disk)
      (cause : DiskFault) :
      Obtaining session (.error (.disk cause), { session with disk, draws := session.draws + 1 })
  | made (known : session.store.installationId? = .ok none) (disk : Disk) :
      Obtaining session (.ok (drawnIdentifier session.draws),
        ({ session with
          disk
          draws := session.draws + 1
          store.values := session.store.values.put installationKey
            (some (.text (drawnIdentifier session.draws))) } : StoreSession).run
          (tellings session.store.listeners.items installationKey))

theorem obtainId_unreadable {fault : PreferenceFault}
    (known : session.store.installationId? = .error fault) :
    session.obtainId = (.error fault, session) := by
  unfold obtainId
  simp only [perform, known, StoreSession.run]

theorem obtainId_stored {id : String} (known : session.store.installationId? = .ok (some id)) :
    session.obtainId = (.ok id, session) := by
  unfold obtainId
  simp only [perform, known, StoreSession.run]

theorem obtaining_obtainId (session : StoreSession) : session.Obtaining session.obtainId := by
  cases known : session.store.installationId? with
  | error fault =>
      rw [obtainId_unreadable known]
      exact .unreadable known
  | ok found =>
      cases found with
      | some id =>
          rw [obtainId_stored known]
          exact .stored known
      | none =>
          unfold obtainId
          have settled : (Preference.text (drawnIdentifier session.draws)).IsSettled :=
            not_blank_drawnIdentifier session.draws
          have fresh : session.store.get? installationKey ≠
              some (.text (drawnIdentifier session.draws)) := fun same =>
            Store.installationId_settled settled same known
          simp only [perform, known, write]
          rcases session.store.put_other session.disk fresh with ⟨cause, disk, put⟩ | ⟨disk, put⟩
          · rw [put]
            simp only [StoreSession.run]
            exact .unstored known disk cause
          · rw [put]
            exact .made known disk

/-- Nobody is told of an installation id that cannot be stored, and no other reading is at fault. -/
theorem obtainId_failed {fault : PreferenceFault}
    (failed : session.obtainId.1 = .error fault) :
    fault ≠ .otherKind optInKey .boolean ∧ session.obtainId.2.store = session.store := by
  have obtaining := session.obtaining_obtainId
  generalize session.obtainId = outcome at obtaining failed ⊢
  cases obtaining with
  | unreadable known =>
      cases failed
      rw [Store.installationId_error known]
      exact ⟨by decide, rfl⟩
  | unstored known disk cause =>
      cases failed
      exact ⟨PreferenceFault.noConfusion, rfl⟩
  | stored known => cases failed
  | made known disk => cases failed

def Settles (before after : StoreSession) : Prop :=
  ∀ value : Preference, value.IsSettled → before.store.get? installationKey = some value →
    after.store.get? installationKey = some value

theorem Settles.refl (session : StoreSession) : session.Settles session := fun _ _ => id

theorem Settles.trans {before between after : StoreSession} (first : before.Settles between)
    (second : between.Settles after) : before.Settles after :=
  fun value settled stored => second value settled (first value settled stored)

end StoreSession

/-- Nobody writes under the key of the installation id, except by asking for the id. -/
def StoreStep.SparesId : StoreStep → Prop :=
  StoreStep.Keeps fun step => ∀ value, step ≠ .put installationKey value

namespace StoreSession

variable {session : StoreSession}

theorem settles_perform (session : StoreSession) {next : StoreStep} (spares : next.SparesId) :
    session.Settles (session.perform next).2.2 := by
  obtain ⟨stays, wholly⟩ := spares
  have other := wholly.own
  cases next with
  | put key value =>
      have apart : key ≠ installationKey := by
        rintro rfl
        exact other value rfl
      have writing := session.writing_write key value .written
      simp only [perform]
      generalize session.write key value .written = outcome at writing ⊢
      cases writing with
      | unchanged same => exact .refl session
      | failed changed disk cause => exact .refl session
      | written changed disk =>
          intro kept _ stored
          exact (Values.get_put_other apart value session.store.values).trans stored
  | installationId =>
      intro value settled stored
      have known := Store.installationId_settled settled stored
      simp only [perform]
      split
      · exact stored
      · exact stored
      · rename_i none
        exact absurd none known
  | unsubscribe index =>
      simp only [perform]
      split
      · exact .refl session
      · exact .refl session
  | reopen => cases stays
  | place path entry =>
      simp only [perform]
      split
      · exact .refl session
      · exact .refl session
      · split
        · exact .refl session
        · exact .refl session
  | discard path =>
      simp only [perform]
      split
      · exact .refl session
      · exact .refl session
  | _ => exact .refl session

theorem settles_step (session : StoreSession) {frame : StoreFrame}
    (spares : Fits StoreStep.SparesId frame) : session.Settles (session.step frame).2 := by
  rcases session.step_cases frame with
    ⟨name, next, rest, rfl, taken⟩ | ⟨notes, scripts, deadlocked, result, kept⟩
  · rw [taken]
    exact session.settles_perform (spares next List.mem_cons_self)
  · rw [kept]
    exact .refl session

theorem Obeys.settles_obtainId (obeys : session.Obeys StoreStep.SparesId) :
    session.Settles session.obtainId.2 :=
  (obeys.obtainId StoreStep.isConduct_keeps (Settles session)
    (fun between _ spares settles => settles.trans (between.settles_step spares))
    (session.settles_perform ⟨rfl, fun _ => StoreStep.noConfusion⟩)).1

theorem Obeys.obtained (obeys : session.Obeys StoreStep.SparesId) {id : String}
    (ok : session.obtainId.1 = .ok id) :
    session.obtainId.2.store.installationId? = .ok (some id) := by
  have obtaining := session.obtaining_obtainId
  generalize session.obtainId = outcome at obtaining ok ⊢
  cases obtaining with
  | unreadable known => cases ok
  | unstored known disk cause => cases ok
  | stored known =>
      cases ok
      exact known
  | made known disk =>
      cases ok
      rw [Store.installationId_eq_some]
      refine ⟨?_, not_blank_drawnIdentifier session.draws⟩
      have told := fits_tellings StoreStep.SparesId session.store.listeners.items installationKey
      refine (Obeys.run ?_ StoreStep.isConduct_keeps
        (·.store.get? installationKey = some (.text (drawnIdentifier session.draws)))
        (fun between _ spares same => between.settles_step spares _
          (not_blank_drawnIdentifier session.draws) same) told ?_).1
      · exact obeys
      · exact Values.get_insert_self _ _ _

end StoreSession

end Telemetry
