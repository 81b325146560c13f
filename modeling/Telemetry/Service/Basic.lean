import Telemetry.Client.Basic
import Telemetry.Hooks.Chain
import Telemetry.PanicHook
import Telemetry.Preferences.Run
import Telemetry.Settings.Supply
import Telemetry.TypeName
/-!
The analytics service of an application.

The service owns the current client, keeps it in step with the user's choice among the
preferences, and reports uncaught errors through a chain of handlers.  It is built from parts;
what is not given is found in the environment.
-/

namespace Telemetry

inductive ChainMember where
  | service
  | recorder (name : String)
  deriving DecidableEq, Repr, Inhabited

structure Service where
  supply : SettingsSupply
  store : StoreSession
  chain : HookChain ChainMember
  ownsChain : Bool
  panicHook : PanicHook Unit := .initial
  /-- What takes the batches of all clients; without it each client makes something of its own. -/
  courier : Option Nat
  policy : RetryPolicy
  clients : Clients := {}
  current : Option Nat := none
  optedIn : Bool := true
  token : Option Nat := none
  subscription : Option Nat := none
  dryRunChoice : Option Bool := none
  bridge : Option (PanicBridge Unit) := none
  released : Bool := false
  records : List (String × String) := []

structure ServiceParts where
  supply : Option SettingsSupply := none
  store : Option (Store Listener) := none
  chain : Option (HookChain ChainMember) := none
  courier : Option Courier := none
  policy : RetryPolicy := {}
  hasRuntime : Bool := true
  world : World := {}

namespace ServiceParts

def openStore (parts : ServiceParts) (environment : Environment) (disk : Disk) :
    Except ServiceError (Store Listener) :=
  match parts.store with
  | some store => .ok store
  | none => do
      let paths ← (Paths.resolve environment).mapError .settings
      (Store.openFile disk paths.preferences).mapError .preferences

def build (parts : ServiceParts) (environment : Environment) (disk : Disk) (directory : Place) :
    Except ServiceError Service := do
  if !parts.hasRuntime then .error .noRuntime
  let supply ←
    match parts.supply with
    | some supply => .ok supply
    | none => (SettingsSupply.ofEnvironment environment).mapError .settings
  let store ← parts.openStore environment disk
  return {
    supply
    store := { store, disk, directory }
    chain := parts.chain.getD {}
    ownsChain := parts.chain.isNone
    courier := parts.courier.map fun _ => 0
    policy := parts.policy
    clients := { outbox := { couriers := parts.courier.toList, world := parts.world } } }

end ServiceParts

namespace Service

/-- The queue in which a panic during a delivery is reported.  There is one if panics are bridged to
a chain in which the service has a place, and the current client takes reports. -/
def witness? (service : Service) : Option Nat := do
  let index ← service.current
  let client ← Clients.client? service.clients index
  let isCalled := !service.panicHook.chains.isEmpty && service.chain.handlers.contains .service
  if isCalled && !service.released && !client.closed && client.enabled && !client.dryRun then
    some index
  else none

/-- The clients, with the queue in which panics of deliveries are reported meanwhile. -/
def lendClients (service : Service) : Clients :=
  { service.clients with witness := service.witness? }

def takeBack (service : Service) (clients : Clients) : Service :=
  { service with clients := { clients with witness := none } }

end Service

def Service.describe (service : Service) : String :=
  "UsageAnalytics \x7b initialized: " ++ toString service.current.isSome ++ ", opted_in: " ++
    toString service.optedIn ++ " \x7d"

end Telemetry
