import Telemetry.Cause
import Telemetry.Service.Lifecycle
/-!
Reporting with the current client.

Uncaught errors reach the service through the chain; it reports them as fatal before the terminal
handler is called.
-/

namespace Telemetry.Service

def send (service : Service) (hit : Hit) : Except ServiceError Unit × Service :=
  match service.current with
  | none => (.error .notInitialized, service)
  | some index =>
      let sent := service.clients.send index hit
      (sent.1, { service with clients := sent.2 })

def reportScreen (service : Service) (name : String) : Except ServiceError Unit × Service :=
  service.send (.ofScreen name)

def reportScreenOfType (service : Service) (typeName : String) :
    Except ServiceError Unit × Service :=
  service.reportScreen (TypeName.short typeName)

def reportEvent (service : Service) (event : Event) : Except ServiceError Unit × Service :=
  service.send (.event event)

def reportFailure (service : Service) (description : String) (fatal : Bool) :
    Except ServiceError Unit × Service :=
  service.send (.ofFailure description fatal)

def reportError (service : Service) (error : ErrorChain) (fatal : Bool) :
    Except ServiceError Unit × Service :=
  service.reportFailure error.describe fatal

def flush (service : Service) : Answer × Service :=
  match service.current with
  | none => (.failed .notInitialized, service)
  | some index =>
      let flushed := Engine.flush service.lendClients index
      (flushed.1, service.takeBack flushed.2)

def callMember (exception : UncaughtException) (service : Service) : ChainMember → Service
  | .recorder name =>
      { service with records := service.records ++ [(name, exception.description)] }
  | .service =>
      if service.released then service
      else (service.reportFailure exception.description true).2

def dispatch (service : Service) (exception : UncaughtException) : Service :=
  service.chain.handlers.foldl (callMember exception) service

def panic (service : Service) (exception : UncaughtException) : Service :=
  service.panicHook.chains.foldl (fun after _ => after.dispatch exception) service

end Telemetry.Service
