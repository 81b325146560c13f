import Telemetry.Proofs.Preferences.Identification
import Telemetry.Proofs.Preferences.Reserve
import Telemetry.Proofs.Service.Start
import Telemetry.Proofs.Settings.Acceptance

/-! What a start leaves behind that fails. Settings, installation id and client are obtained before
anything of the service is changed, so a start that fails at one of them is as good as none. The
stored choice is read last: a start that fails there has already put a new client into use, which
takes hits, and takes nothing of this back. -/

namespace Telemetry

def ServiceError.choiceUnread : ServiceError := .preferences (.otherKind optInKey .boolean)

theorem ClientConfig.check_failed {config : ClientConfig}
    {parseUrl : String → Except Url.Fault Url} {identity : AppIdentity}
    {hasRuntime hasSender : Bool} {fault : PreferenceFault} :
    config.check parseUrl identity hasRuntime hasSender ≠ .error (.preferences fault) :=
  fun failed => ClientConfig.check_error failed

namespace Clients

/-- A client that takes hits, though it may only pretend to send them. -/
def Serves (clients : Clients) (index : Nat) : Prop :=
  ∃ task, clients.tasks[index]? = some task ∧ task.owner.closed = false ∧
    task.owner.enabled = true ∧ task.queue.closed = false

theorem serves_launch (clients : Clients) (origin : Origin) (config : ClientConfig)
    (courier : Option Nat) :
    (clients.launch origin config courier).Serves clients.tasks.length := by
  obtain ⟨number, turn, launched⟩ := clients.tasks_launch origin config courier
  unfold Serves
  rw [launched, List.getElem?_concat_length]
  exact ⟨_, rfl, rfl, rfl, rfl⟩

theorem send_serving {clients : Clients} {index : Nat} (serves : clients.Serves index)
    (hit : Hit) : (clients.send index hit).1 = .ok () := by
  obtain ⟨task, found, opened, enabled, unclosed⟩ := serves
  unfold send client?
  simp only [found, Option.map_some, opened, enabled, Bool.false_eq_true, if_false, Bool.not_true,
    Bool.false_or]
  split
  · rfl
  · simp [Engine.enqueue, Engine.queue?, HitQueue.enqueue, found, unclosed]

end Clients

/-- How it ends when a client is built. Of the preferences only the installation id is asked for;
listeners that are told of a new one may change on their own account. -/
inductive Built (before : StoreSession) :
    Except ServiceError Nat → StoreSession → Clients → Prop where
  | refused {error : ServiceError} {store : StoreSession} {clients : Clients}
      (other : error ≠ .choiceUnread)
      (listeners : store.store.listeners = before.store.listeners ∨
        ¬before.Reserved ∧ store = before.obtainId.2) : Built before (.error error) store clients
  | serving {index : Nat} {store : StoreSession} {clients : Clients}
      (serves : clients.Serves index) : Built before (.ok index) store clients

namespace Service

variable (service : Service)

theorem buildClient_outcome :
    ∃ result supply store clients, service.buildClient =
      (result, { service with supply, store, clients }) ∧
        Built service.store result store clients := by
  have building := service.building_buildClient
  generalize service.buildClient = outcome at building ⊢
  cases building with
  | unsupplied failed =>
      refine ⟨_, service.supply.afterLoad, service.store, _, rfl, .refused ?_ (.inl rfl)⟩
      exact ServiceError.noConfusion
  | unidentified loaded failed =>
      obtain ⟨other, same⟩ := StoreSession.obtainId_failed failed
      refine ⟨_, service.supply.afterLoad, _, _, rfl,
        .refused ?_ (.inl (congrArg Store.listeners same))⟩
      intro unread
      exact other (ServiceError.preferences.inj unread)
  | refused loaded obtained failed =>
      refine ⟨_, service.supply.afterLoad, _, _, rfl, .refused ?_ ?_⟩
      · rintro rfl
        exact ClientConfig.check_failed failed
      · by_cases reserved : service.store.Reserved
        · exact .inl reserved.obtainId
        · exact .inr ⟨reserved, rfl⟩
  | launched loaded obtained checked =>
      exact ⟨_, service.supply.afterLoad, _, _, rfl,
        .serving (Clients.serves_launch service.loading.clients _ _ _)⟩

variable {service : Service}

theorem storedChoice_failed {fault : PreferenceFault}
    (unread : service.storedChoice = .error fault) :
    fault = .otherKind optInKey .boolean ∧
      ∃ text, service.store.store.get? optInKey = some (.text text) := by
  unfold storedChoice Store.getBoolean at unread
  split at unread
  · cases unread
  · cases unread
  · rename_i text found
    exact ⟨(Except.error.inj unread).symm, text, found⟩

theorem intercept_intercepts (service : Service) : service.intercept.token ≠ none := by
  unfold intercept
  cases held : service.token with
  | some number =>
      simp only [held]
      exact Option.some_ne_none number
  | none => exact Option.some_ne_none _

theorem bridgePanics_bridges (service : Service) (owns : service.ownsChain = true) :
    service.bridgePanics.bridge ≠ none := by
  unfold bridgePanics
  cases held : service.bridge with
  | some bridge =>
      simp only [held, Option.isNone_some, Bool.and_false, Bool.false_eq_true, if_false]
      exact Option.some_ne_none bridge
  | none =>
      simp only [owns, Option.isNone_none, Bool.and_self, if_true]
      exact Option.some_ne_none _

/-- As good as if nobody had tried: there is no client, every report is refused, and nobody is
registered who was not registered before. -/
structure Untouched (before after : Service) : Prop where
  idle : after.current = none
  refuses : ∀ report, after.report report = (.error .notInitialized, after)
  chain : after.chain = before.chain
  panicHook : after.panicHook = before.panicHook
  optedIn : after.optedIn = before.optedIn
  listeners : after.store.store.listeners = before.store.store.listeners ∨
    ¬before.store.Reserved ∧ after.store = before.store.obtainId.2

/-- A client is in use and takes hits, errors and panics are handed to the service, and nobody has
looked at the choice, which is a text. -/
structure LeftRunning (before after : Service) : Prop where
  serves : ∃ index, after.current = some index ∧ Clients.Serves after.clients index
  accepts : ∀ report, (after.report report).1 = .ok ()
  intercepts : after.token ≠ none
  bridges : after.ownsChain = true → after.bridge ≠ none
  unread : ∃ text, after.store.store.get? optInKey = some (.text text)
  optedIn : after.optedIn = before.optedIn
  subscription : after.subscription = before.subscription

theorem refuses_idle (idle : service.current = none) (report : Report) :
    service.report report = (.error .notInitialized, service) := by
  obtain ⟨hit, same⟩ := service.report_sends report
  rw [same]
  unfold send
  rw [idle]

/-- A client that is put into use stays there, also if the stored choice cannot be read. -/
theorem startUsing_failed {error : ServiceError} {index : Nat}
    (serves : Clients.Serves service.clients index)
    (failed : (service.startUsing index).1 = .error error) :
    error = .choiceUnread ∧ service.LeftRunning (service.startUsing index).2 := by
  obtain ⟨token, chain, intercepted⟩ :=
    Service.intercept_eq { service with current := some index }
  obtain ⟨bridge, panicHook, bridged⟩ :=
    ({ service with current := some index } : Service).intercept.bridgePanics_eq
  have intercepts := intercept_intercepts { service with current := some index }
  have bridges := ({ service with current := some index } : Service).intercept.bridgePanics_bridges
  rw [bridged] at bridges
  rw [intercepted] at intercepts bridges bridged
  unfold startUsing at failed ⊢
  rw [intercepted, bridged] at failed ⊢
  dsimp only at failed ⊢
  split at failed
  · rename_i fault unread
    obtain ⟨reason, text, found⟩ := storedChoice_failed unread
    refine ⟨?_, ⟨index, rfl, serves⟩, ?_, intercepts, bridges, ⟨text, found⟩, rfl, rfl⟩
    · rw [← Except.error.inj failed, reason]
      rfl
    · intro report
      obtain ⟨hit, same⟩ := report_sends _ report
      rw [same]
      exact Clients.send_serving serves hit
  · cases failed

theorem start_failed {error : ServiceError} (idle : service.current = none)
    (failed : service.start.1 = .error error) :
    error ≠ .choiceUnread ∧ service.Untouched service.start.2 ∨
      error = .choiceUnread ∧ service.LeftRunning service.start.2 := by
  unfold start at failed ⊢
  rw [idle] at failed ⊢
  obtain ⟨result, supply, store, clients, built, outcome⟩ := service.buildClient_outcome
  rw [built] at failed ⊢
  cases outcome with
  | refused other listeners =>
      cases failed
      exact .inl ⟨other, idle, refuses_idle idle, rfl, rfl, rfl, listeners⟩
  | serving serves =>
      obtain ⟨unread, left⟩ := startUsing_failed serves failed
      exact .inr ⟨unread, left.serves, left.accepts, left.intercepts, left.bridges, left.unread,
        left.optedIn, left.subscription⟩

theorem Untouched.not_leftRunning {after : Service} (untouched : service.Untouched after) :
    ¬service.LeftRunning after := by
  intro left
  obtain ⟨index, held, _⟩ := left.serves
  rw [untouched.idle] at held
  cases held

theorem dropClient_idle (service : Service) :
    service.dropClient.stopIntercepting.current = none := by
  obtain ⟨clients, dropped, _⟩ := service.dropClient_eq
  obtain ⟨chain, stopped⟩ := service.dropClient.stopIntercepting_eq
  rw [stopped, dropped]

/-- A start that fails leaves everything as it was exactly when it did not get as far as the stored
choice. When it fails at the choice, it leaves a client behind that takes hits, and the same is true
of starting again. -/
theorem failed_start_untouched_iff (service : Service) :
    (∀ error, service.current = none → service.start.1 = .error error →
        (service.Untouched service.start.2 ↔ error ≠ .choiceUnread) ∧
          (service.LeftRunning service.start.2 ↔ error = .choiceUnread)) ∧
      ∀ error, service.restart.1 = .error error →
        (service.restart.2.current = none ↔ error ≠ .choiceUnread) := by
  constructor
  · intro error idle failed
    rcases start_failed idle failed with ⟨other, untouched⟩ | ⟨unread, left⟩
    · refine ⟨iff_of_true untouched other, iff_of_false ?_ other⟩
      exact untouched.not_leftRunning
    · refine ⟨iff_of_false ?_ (not_not.mpr unread), iff_of_true left unread⟩
      exact fun untouched => untouched.not_leftRunning left
  · intro error failed
    rcases start_failed service.dropClient_idle failed with
      ⟨other, untouched⟩ | ⟨unread, left⟩
    · exact iff_of_true untouched.idle other
    · refine iff_of_false ?_ (not_not.mpr unread)
      intro idle
      obtain ⟨index, held, _⟩ := left.serves
      rw [restart, held] at idle
      cases idle

/-- Nothing was there before the start, which fails; after it there are a client, a handler and a
bridge, and a report is accepted. -/
theorem failed_start_leaves_client :
    ∃ service, ({ ServiceParts.atHand [(optInKey, .text "no")] [] with chain := none }).build {} {}
        [] = .ok service ∧
      service.current = none ∧ service.chain.handlers = [] ∧ service.panicHook = .initial ∧
      service.start.1.toOption = none ∧ service.start.2.current = some 0 ∧
      service.start.2.chain.handlers = [.service] ∧
      service.start.2.panicHook = .bridged () .initial ∧
      (service.start.2.report (.screen "DeckPicker")).1.toOption = some () ∧
      service.restart.1.toOption = none ∧ service.restart.2.current = some 0 := by
  refine ⟨_, rfl, rfl, rfl, rfl, ?_, ?_, ?_, ?_, ?_, ?_, ?_⟩
  · decide +kernel
  · decide +kernel
  · decide +kernel
  · decide +kernel
  · decide +kernel
  · decide +kernel
  · decide +kernel

theorem failed_start_untouched_noSettings :
    let unread := Service.atHand [(optInKey, .text "no")] []
    let unset := { Service.atHand [] [] with supply := .failing .noHome }
    unread.current = none ∧ unread.start.1 = .error .choiceUnread ∧
      unread.LeftRunning unread.start.2 ∧ unread.restart.1 = .error .choiceUnread ∧
      unread.restart.2.current ≠ none ∧ unset.current = none ∧
      unset.start.1 = .error (.settings .noHome) ∧ unset.Untouched unset.start.2 := by
  intro unread unset
  have failed : unread.start.1 = .error .choiceUnread := by decide +kernel
  have again : unread.restart.1 = .error .choiceUnread := by decide +kernel
  have refused : unset.start.1 = .error (.settings .noHome) := rfl
  obtain ⟨starts, restarts⟩ := failed_start_untouched_iff unread
  have left := (starts _ rfl failed).2.mpr rfl
  have stays : unread.restart.2.current ≠ none :=
    fun idle => (restarts _ again).mp idle rfl
  have untouched := ((failed_start_untouched_iff unset).1 _ rfl refused).1.mpr
    ServiceError.noConfusion
  exact ⟨rfl, failed, left, again, stays, rfl, refused, untouched⟩

end Service

end Telemetry
