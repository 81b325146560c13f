import Telemetry.Proofs.Queue.Event
import Telemetry.Service.Reports
import Telemetry.Service.Run

/-! Runs of a service. A run is any sequence of operations: calls of the application, changes of
preferences with the reactions of all listeners, uncaught errors, calls on clients that somebody
has kept, and single steps of the loops of all clients, old and new. -/

namespace Telemetry

inductive Report where
  | screen (name : String)
  | screenOfType (typeName : String)
  | event (event : Event)
  | error (error : ErrorChain) (fatal : Bool)
  | failure (description : String) (fatal : Bool)

inductive ClientOperation where
  | send (hit : Hit)
  | setEnabled (enabled : Bool)
  | setDryRun (dryRun : Bool)
  | flush
  | shutdown
  | shutdownAndWait

mutual

/-- A step that leaves the store in its place, whatever else it and its reaction do. -/
def StoreStep.staysOpen : StoreStep → Bool
  | .reopen => false
  | .subscribe _ _ reaction => StoreStep.stayOpen reaction
  | _ => true

def StoreStep.stayOpen : List StoreStep → Bool
  | [] => true
  | step :: rest => step.staysOpen && StoreStep.stayOpen rest

end

inductive Operation where
  | start
  | restart
  | shutdown
  | detach
  | setOptIn (enabled : Bool)
  | setDryRun (dryRun : Bool)
  | intercept
  | stopIntercepting
  | report (report : Report)
  | flush
  | dispatch (exception : UncaughtException)
  | panic (exception : UncaughtException)
  | change (step : StoreStep) (stays : step.staysOpen = true)
  | resupply (supply : SettingsSupply)
  | onClient (index : Nat) (operation : ClientOperation)
  /-- Somebody lets go of a client; the service keeps its own. -/
  | forget (index : Nat)
  | enlist (name : String)
  | dismiss (number : Nat)
  | setTerminal (name : Option String)
  | go (index place : Nat)
  | tick (milliseconds : Nat)
  | sleep (milliseconds : Nat)

def Clients.perform (clients : Clients) (index : Nat) : ClientOperation → Clients
  | .send hit => (clients.send index hit).2
  | .setEnabled enabled => clients.setEnabled index enabled
  | .setDryRun dryRun => clients.setDryRun index dryRun
  | .flush => (Engine.flush clients index).2
  | .shutdown => clients.shutdown index
  | .shutdownAndWait => clients.shutdownAndWait index

namespace Service

def report (service : Service) : Report → Except ServiceError Unit × Service
  | .screen name => service.reportScreen name
  | .screenOfType typeName => service.reportScreenOfType typeName
  | .event event => service.reportEvent event
  | .error error fatal => service.reportError error fatal
  | .failure description fatal => service.reportFailure description fatal

/-- Lets something happen to the clients; deliveries that panic are reported meanwhile. -/
def withClients (service : Service) (happen : Clients → Clients) : Service :=
  service.takeBack (happen service.lendClients)

def perform (service : Service) : Operation → Service
  | .start => service.start.2
  | .restart => service.restart.2
  | .shutdown => service.shutdown.2
  | .detach => service.detach
  | .setOptIn enabled => (service.setOptIn enabled).2
  | .setDryRun dryRun => service.setDryRun dryRun
  | .intercept => service.intercept
  | .stopIntercepting => service.stopIntercepting
  | .report report => (service.report report).2
  | .flush => service.flush.2
  | .dispatch exception => service.dispatch exception
  | .panic exception => service.panic exception
  | .change step _ => service.changePreferences step
  | .resupply supply => { service with supply }
  | .onClient index operation => service.withClients (Clients.perform · index operation)
  | .forget index =>
      if service.current = some index then service
      else { service with clients := Clients.release service.clients index }
  | .enlist name => { service with chain := service.chain.install (.recorder name) }
  | .dismiss number =>
      if service.token = some number then service
      else { service with chain := service.chain.uninstall number }
  | .setTerminal name => { service with chain := service.chain.setTerminal (name.map .recorder) }
  | .go index place => service.withClients (Engine.after · (.go index place))
  | .tick milliseconds => service.withClients (Engine.after · (.tick milliseconds))
  | .sleep milliseconds => service.withClients (Engine.sleep · milliseconds)

def course (service : Service) (operations : List Operation) : Service :=
  operations.foldl perform service

theorem course_preserves (holds : Service → Prop) {operations : List Operation}
    (step : ∀ service, ∀ operation ∈ operations, holds service → holds (service.perform operation))
    {service : Service} (start : holds service) : holds (service.course operations) := by
  induction operations generalizing service with
  | nil => exact start
  | cons operation rest ih =>
      have first := step service operation List.mem_cons_self start
      exact ih (fun later other member => step later other (List.mem_cons_of_mem _ member)) first

theorem course_snoc (service : Service) (past : List Operation) (next : Operation) :
    service.course (past ++ [next]) = (service.course past).perform next := by
  simp only [course, List.foldl_append, List.foldl_cons, List.foldl_nil]

end Service

theorem ServiceParts.build_eq {parts : ServiceParts} {environment : Environment} {disk : Disk}
    {directory : Place} {service : Service}
    (built : parts.build environment disk directory = .ok service) :
    ∃ supply store, parts.openStore environment disk = .ok store ∧ service =
      { supply
        store := { store, disk, directory }
        chain := parts.chain.getD {}
        ownsChain := parts.chain.isNone
        courier := parts.courier.map fun _ => 0
        policy := parts.policy
        clients := { outbox := { couriers := parts.courier.toList, world := parts.world } } } := by
  unfold build at built
  simp only [bind, Except.bind, pure, Except.pure] at built
  split at built
  · cases built
  · cases opened : parts.openStore environment disk with
    | error fault =>
        simp only [opened] at built
        split at built
        · cases built
        · split at built <;> cases built
    | ok store =>
        simp only [opened] at built
        split at built
        · cases built
          exact ⟨_, store, rfl, rfl⟩
        · split at built
          · cases built
          · cases built
            exact ⟨_, store, rfl, rfl⟩

def Settings.atHand : Settings where
  identity := { trackingId := "UA-1-1", appName := "a", appVersion := "1", appId := "a" }
  delivery := { baseUrl := "http://a" }
  paths := .standard

/-- Surroundings that are all at hand: settings that hold, a store in memory with an installation
id, and a courier that gives the given answers. -/
def ServiceParts.atHand (values : Values) (answers : List Answer) : ServiceParts where
  supply := some (.fixed .atHand)
  store := some { values := (installationKey, .text "id") :: values }
  chain := some {}
  courier := some (.scripted answers)

def Service.atHand (values : Values) (answers : List Answer) : Service where
  supply := .fixed .atHand
  store := { store := { values := (installationKey, .text "id") :: values } }
  chain := {}
  ownsChain := false
  courier := some 0
  policy := {}
  clients := { outbox := { couriers := [.scripted answers] } }

theorem ServiceParts.build_atHand (values : Values) (answers : List Answer) :
    (atHand values answers).build {} {} [] = .ok (Service.atHand values answers) := rfl

theorem ServiceParts.unlistened_atHand (values : Values) (answers : List Answer)
    (store : Store Listener) (given : (atHand values answers).store = some store) :
    .service ∉ store.listeners.items := by
  rw [← Option.some.inj given]
  exact List.not_mem_nil

theorem ServiceParts.unlisted_atHand (values : Values) (answers : List Answer)
    (chain : HookChain ChainMember) (given : (atHand values answers).chain = some chain) :
    .service ∉ chain.interceptors.items := by
  rw [← Option.some.inj given]
  exact List.not_mem_nil

end Telemetry
