import Telemetry.Client.Config
import Telemetry.Queue.Engine
import Telemetry.Text.Quoted
/-!
Clients: queues with switches.

A client takes hits until it is closed.  While it is disabled or only pretends to send, hits are
dropped without an error.  All clients of an application share one engine; a client is known by
the index of its queue.
-/

namespace Telemetry

open Telemetry.Text

structure Client where
  origin : Origin
  enabled : Bool := true
  dryRun : Bool := false
  closed : Bool := false
  awaited : Bool := false
  deriving Inhabited

abbrev Clients := Engine Client

def Client.describe (client : Client) : String :=
  "AnalyticsClient \x7b client_id: " ++ quoted client.origin.clientId ++
    ", enabled: " ++ toString client.enabled ++ ", dry_run: " ++ toString client.dryRun ++
    ", closed: " ++ toString client.closed ++ " \x7d"

namespace Clients

def client? (clients : Clients) (index : Nat) : Option Client :=
  (clients.tasks[index]?).map (·.owner)

def modifyClient (clients : Clients) (index : Nat) (change : Client → Client) : Clients :=
  clients.modify index fun task => { task with owner := change task.owner }

/-- The clients with the courier for a new client; a client that is given none gets its own. -/
def withCourier (clients : Clients) (origin : Origin) (config : ClientConfig) :
    Option Nat → Nat × Clients
  | some courier => (courier, clients)
  | none =>
      let sender := HttpSender.make config.baseUrl origin config.policy config.shownUserAgent
      (clients.outbox.couriers.length, { clients with outbox := clients.outbox.connect sender })

def launch (clients : Clients) (origin : Origin) (config : ClientConfig) (courier : Option Nat) :
    Clients :=
  let supplied := clients.withCourier origin config courier
  let client : Client := { origin, dryRun := config.dryRun }
  (Engine.add supplied.2 client supplied.1 config.queue).start clients.tasks.length

def buildBy (parseUrl : String → Except Url.Fault Url) (clients : Clients) (origin : Origin)
    (config : ClientConfig) (courier : Option Nat) (hasRuntime : Bool) :
    Except ServiceError Nat × Clients :=
  match config.check parseUrl origin.identity hasRuntime courier.isSome with
  | .error error => (.error error, clients)
  | .ok () => (.ok clients.tasks.length, clients.launch origin config courier)

def build (clients : Clients) (origin : Origin) (config : ClientConfig) (courier : Option Nat)
    (hasRuntime : Bool) : Except ServiceError Nat × Clients :=
  clients.buildBy Url.parse origin config courier hasRuntime

def send (clients : Clients) (index : Nat) (hit : Hit) : Except ServiceError Unit × Clients :=
  match clients.client? index with
  | none => (.error .closed, clients)
  | some client =>
      if client.closed then (.error .closed, clients)
      else if !client.enabled || client.dryRun then (.ok (), clients)
      else clients.enqueue index hit

def setEnabled (clients : Clients) (index : Nat) (enabled : Bool) : Clients :=
  clients.modifyClient index fun client => { client with enabled }

def setDryRun (clients : Clients) (index : Nat) (dryRun : Bool) : Clients :=
  clients.modifyClient index fun client => { client with dryRun }

def shutdown (clients : Clients) (index : Nat) : Clients :=
  match clients.client? index with
  | none => clients
  | some client =>
      if client.closed then clients
      else (clients.modifyClient index fun client => { client with closed := true }).close index

def isRunning (clients : Clients) (index : Nat) : Bool :=
  (clients.tasks[index]?).any (·.loops.any (·.stage.isAlive))

def hasCrashed (clients : Clients) (index : Nat) : Bool :=
  (clients.tasks[index]?).any (·.loops.any (·.stage == .crashed))

/-- Waits for the end of a loop; meanwhile all loops go on. -/
def await (clients : Clients) (index : Nat) : Clients :=
  let settled : Clients := if clients.isRunning index then clients.settle else clients
  if settled.hasCrashed index then settled.log [.loopLost] else settled

/-- Closes a client and waits for its last flush.  Only the first call waits. -/
def shutdownAndWait (clients : Clients) (index : Nat) : Clients :=
  let closed := clients.shutdown index
  match closed.client? index with
  | none => closed
  | some client =>
      if client.awaited then closed
      else (closed.modifyClient index fun client => { client with awaited := true }).await index

def release (clients : Clients) (index : Nat) : Clients := clients.close index

end Clients

end Telemetry
