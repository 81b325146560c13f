import Telemetry.Service.Basic
/-!
Starting the service, following the user's choice, and shutting the service down.

A start builds a client unless there is one, takes a place in the chain and, if the chain is the
service's own, bridges panics into it, applies the stored choice, and begins to listen for
changes of it.  A place that the service already has is kept.
-/

namespace Telemetry

namespace StoreSession

/-- The installation id of the store; one that is not there yet is made, and the listeners are
told. -/
def obtainId (session : StoreSession) : Except PreferenceFault String × StoreSession :=
  let performed := session.perform .installationId
  let after := performed.2.2.run performed.1
  match performed.2.1 with
  | .identified id => (.ok id, after)
  | .failed fault => (.error fault, after)
  | _ => (.ok "", after)

end StoreSession

namespace Service

def log (service : Service) (events : List LogEvent) : Service :=
  { service with clients := service.clients.log events }

def clientConfig (service : Service) (settings : Settings) : ClientConfig :=
  let config := ClientConfig.ofDelivery settings.delivery
  { config with policy := service.policy, dryRun := service.dryRunChoice.getD config.dryRun }

def buildFor (service : Service) (settings : Settings) : Except ServiceError Nat × Service :=
  let obtained := service.store.obtainId
  let after := { service with store := obtained.2 }
  match obtained.1 with
  | .error fault => (.error (.preferences fault), after)
  | .ok id =>
      let built := after.clients.build ⟨settings.identity, id⟩ (service.clientConfig settings)
        service.courier true
      (built.1, { after with clients := built.2 })

def buildClient (service : Service) : Except ServiceError Nat × Service :=
  let loaded := service.supply.load service.store.disk
  let logged := { service with supply := service.supply.afterLoad }.log loaded.2
  match loaded.1 with
  | .error fault => (.error (.settings fault), logged)
  | .ok settings => logged.buildFor settings

def intercept (service : Service) : Service :=
  match service.token with
  | some _ => service
  | none =>
      { service with
        token := some service.chain.interceptors.next
        chain := service.chain.install .service }

def stopIntercepting (service : Service) : Service :=
  match service.token with
  | none => service
  | some number => { service with token := none, chain := service.chain.uninstall number }

def bridgePanics (service : Service) : Service :=
  if service.ownsChain && service.bridge.isNone then
    let bridged := service.panicHook.bridge ()
    { service with bridge := some bridged.1, panicHook := bridged.2 }
  else service

def unbridgePanics (service : Service) : Service :=
  match service.bridge with
  | none => service
  | some bridge => { service with bridge := none, panicHook := bridge.remove }

def listen (service : Service) : Service :=
  match service.subscription with
  | some _ => service
  | none =>
      { service with
        subscription := some service.store.store.listeners.next
        store.store := service.store.store.subscribe .service }

def stopListening (service : Service) : Service :=
  match service.subscription with
  | none => service
  | some number =>
      { service with
        subscription := none
        store.store := service.store.store.unsubscribe number }

def applyChoice (service : Service) (index : Nat) (enabled : Bool) : Service :=
  { service with optedIn := enabled, clients := service.clients.setEnabled index enabled }

/-- The stored choice; without one nothing is sent. -/
def storedChoice (service : Service) : Except PreferenceFault Bool :=
  (service.store.store.getBoolean optInKey).map (·.getD false)

def startUsing (service : Service) (index : Nat) : Except ServiceError Nat × Service :=
  let ready := ({ service with current := some index }).intercept.bridgePanics
  match ready.storedChoice with
  | .error fault => (.error (.preferences fault), ready)
  | .ok enabled => (.ok index, (ready.applyChoice index enabled).listen)

def start (service : Service) : Except ServiceError Nat × Service :=
  match service.current with
  | some index => service.startUsing index
  | none =>
      let built := service.buildClient
      match built.1 with
      | .error error => (.error error, built.2)
      | .ok index => built.2.startUsing index

def dropClient (service : Service) : Service :=
  match service.current with
  | none => service
  | some index => { service with current := none, clients := service.clients.shutdown index }

def restart (service : Service) : Except ServiceError Nat × Service :=
  service.dropClient.stopIntercepting.start

def setOptIn (service : Service) (enabled : Bool) : Except ServiceError Unit × Service :=
  match service.current with
  | none => (.error .notInitialized, service)
  | some index => (.ok (), service.applyChoice index enabled)

def setDryRun (service : Service) (dryRun : Bool) : Service :=
  let chosen := { service with dryRunChoice := some dryRun }
  match service.current with
  | none => chosen
  | some index => { chosen with clients := service.clients.setDryRun index dryRun }

def followChoice (service : Service) : Service :=
  if service.released then service
  else
    match service.storedChoice with
    | .error _ => service.log [.optInUnreadable]
    | .ok enabled =>
        let applied := service.setOptIn enabled
        let noted :=
          match applied.1 with
          | .error _ => applied.2.log [.optInNotApplied]
          | .ok () => applied.2
        let started := noted.restart
        match started.1 with
        | .error _ => started.2.log [.notReinitialized]
        | .ok _ => started.2

def detach (service : Service) : Service :=
  let detached := service.stopIntercepting.stopListening.unbridgePanics
  { detached with current := none }

/-- Shuts the service down: the answer to its last flush.  A panic in that flush leaves the client
as it is. -/
def shutdown (service : Service) : Answer × Service :=
  match service.current with
  | none => (.delivered, service.detach)
  | some index =>
      let detached := service.detach
      let flushed := detached.clients.flush index
      match flushed.1 with
      | .panicked message => (.panicked message, { detached with clients := flushed.2 })
      | answer => (answer, { detached with clients := Clients.shutdownAndWait flushed.2 index })

def release (service : Service) : Service :=
  { service with
    released := true
    clients := (List.range service.clients.tasks.length).foldl Clients.release service.clients }

end Service

end Telemetry
