import Telemetry.Proofs.Preferences.Identification
import Telemetry.Proofs.Service.Moves

/-! The installation id that clients carry. A client is built only after its id has been stored, and
whoever asks for an id afterwards is given the stored one. So all clients carry the same id as long
as nobody else writes under its key. -/

namespace Telemetry

open Telemetry.Text

namespace Service

variable {service after : Service} {operation : Operation}

def Identified (service : Service) : Prop :=
  ∀ index client, Clients.client? service.clients index = some client →
    service.store.store.get? installationKey = some (.text client.origin.clientId) ∧
      ¬IsBlankText client.origin.clientId

theorem Identified.settles (identified : service.Identified) {store : StoreSession}
    (settles : service.store.Settles store) : ({ service with store } : Service).Identified := by
  intro index client found
  obtain ⟨stored, filled⟩ := identified index client found
  exact ⟨settles (.text client.origin.clientId) filled stored, filled⟩

theorem Identified.leadsTo {shut : Nat → Prop} {clients : Clients}
    (identified : service.Identified)
    (leads : Engine.LeadsTo (QueueEvent.Lasting shut) service.clients clients) :
    ({ service with clients } : Service).Identified := by
  intro index client found
  obtain ⟨former, there, lasts⟩ := Clients.lasts_former leads found
  rw [lasts.origin]
  exact identified index former there

theorem Identified.launch {origin : Origin} {config : ClientConfig} {courier : Option Nat}
    (identified : service.Identified)
    (known : service.store.store.installationId? = .ok (some origin.clientId)) :
    ({ service with clients := Clients.launch service.clients origin config courier } :
      Service).Identified := by
  intro index client found
  rw [Clients.client_launch] at found
  split at found
  · cases found
    exact Store.installationId_eq_some.mp known
  · exact identified index client found

theorem Move.settles (obeys : service.store.Obeys StoreStep.SparesId)
    (move : Move StoreStep.SparesId operation service after) :
    service.store.Settles after.store := by
  cases move with
  | clients leads => exact .refl service.store
  | part held leads closes => exact .refl service.store
  | build idle obtained checked => exact obeys.settles_obtainId
  | obtain => exact obeys.settles_obtainId
  | store suits => exact service.store.settles_step suits
  | aside clients current courier policy store =>
      obtain ⟨listeners, same⟩ := store
      rw [same]
      exact fun _ _ => id

theorem Move.identified (obeys : service.store.Obeys StoreStep.SparesId)
    (identified : service.Identified) (move : Move StoreStep.SparesId operation service after) :
    after.Identified := by
  have settles := move.settles obeys
  cases move with
  | clients leads => exact identified.leadsTo leads
  | part held leads closes => exact identified.leadsTo leads
  | build idle obtained checked =>
      -- The id has been stored before the client gets it.
      have known := obeys.obtained obtained
      exact (identified.settles settles).launch known
  | obtain => exact identified.settles settles
  | store suits => exact identified.settles settles
  | aside clients current courier policy store =>
      obtain ⟨listeners, same⟩ := store
      unfold Identified
      rw [clients, same]
      exact identified

/-- Nobody is about to write under the key of the id, and the clients carry it. -/
structure Steady (service : Service) : Prop where
  obeys : service.store.Obeys StoreStep.SparesId
  identified : service.Identified

theorem Steady.moves (steady : service.Steady)
    (moves : Moves StoreStep.SparesId operation service after) :
    after.Steady ∧ service.store.Settles after.store := by
  refine moves.preserves (fun reached => reached.Steady ∧ service.store.Settles reached.store)
    (fun move held => ?_) ⟨steady, .refl service.store⟩
  obtain ⟨still, settles⟩ := held
  exact ⟨⟨move.obeys StoreStep.isConduct_keeps still.obeys, move.identified still.obeys
    still.identified⟩, settles.trans (move.settles still.obeys)⟩

/-- The operation writes nothing under the key of the installation id, or it fails to. -/
def SparesId (service : Service) (operation : Operation) : Prop :=
  operation.Asks StoreStep.SparesId ∨
    ∃ value, operation = .change (.put installationKey value) rfl ∧
      ¬service.store.Rewrites installationKey value

def LeavesId (service : Service) : List Operation → Prop
  | [] => True
  | operation :: rest => service.SparesId operation ∧ (service.perform operation).LeavesId rest

theorem LeavesId.past {past operations : List Operation} (leaves : service.LeavesId operations)
    (earlier : past <+: operations) : service.LeavesId past := by
  induction operations generalizing service past with
  | nil =>
      rw [List.prefix_nil.mp earlier]
      trivial
  | cons operation rest ih =>
      cases past with
      | nil => trivial
      | cons other past =>
          obtain ⟨rfl, shorter⟩ := List.cons_prefix_cons.mp earlier
          exact ⟨leaves.1, ih leaves.2 shorter⟩

theorem Steady.perform (steady : service.Steady) (spares : service.SparesId operation) :
    (service.perform operation).Steady ∧
      service.store.Settles (service.perform operation).store := by
  rcases spares with asks | ⟨value, rfl, unwritten⟩
  · exact steady.moves (moves_perform StoreStep.isConduct_keeps service steady.obeys asks)
  · obtain ⟨disk, result, unmoved⟩ := service.unwritten_change unwritten
    simp only [Service.perform, unmoved]
    exact ⟨⟨steady.obeys, steady.identified⟩, fun _ _ => id⟩

theorem Steady.course {operations : List Operation} (steady : service.Steady)
    (leaves : service.LeavesId operations) :
    (service.course operations).Steady ∧ ∀ past, past <+: operations →
      (service.course past).store.Settles (service.course operations).store := by
  induction operations generalizing service with
  | nil =>
      refine ⟨steady, fun past earlier => ?_⟩
      rw [List.prefix_nil.mp earlier]
      exact .refl service.store
  | cons operation rest ih =>
      -- The hypothesis is about the service after the first operation, so it covers all later pasts.
      obtain ⟨spares, left⟩ := leaves
      obtain ⟨first, settles⟩ := steady.perform spares
      obtain ⟨last, later⟩ := ih first left
      refine ⟨last, fun past earlier => ?_⟩
      cases past with
      | nil => exact settles.trans (later [] (List.nil_prefix))
      | cons other past =>
          obtain ⟨rfl, shorter⟩ := List.cons_prefix_cons.mp earlier
          exact later past shorter

theorem Identified.boolean {flag : Bool} (identified : service.Identified)
    (stored : service.store.store.get? installationKey = some (.boolean flag)) :
    service.clients.tasks = [] := by
  apply List.eq_nil_iff_forall_not_mem.mpr
  intro task member
  obtain ⟨index, there⟩ := List.mem_iff_getElem?.mp member
  obtain ⟨text, _⟩ := identified index task.owner (Option.map_eq_some_iff.mpr ⟨task, there, rfl⟩)
  cases stored.symm.trans text

end Service

end Telemetry
