import ClusterHub.Hub.Server
import ClusterHub.Simulation.Switchboard

/-!
# Clusters

A hub among those who deal with it: clients, the scheduler that tasks are
submitted again to, somebody who reports about tasks, and observers of what the
hub publishes.
-/

namespace ClusterHub.Simulation

/-- A hub and its surroundings. -/
structure Cluster where
  server : Server
  /-- The clients by label, and the site. -/
  clients : Switchboard
  scheduler : Option Router := none
  /-- Listens to notices. -/
  notices : Subscriber
  /-- Listens to pings. -/
  pings : Subscriber

namespace Cluster

variable (cluster : Cluster)

/-- The network and the clock. -/
def site : Site := cluster.clients.site

/-- Let the network and the clock be as given. -/
def setSite (site : Site) : Cluster := { cluster with clients.site := site }

/-- Let the network be as given. -/
def setNetwork (network : Network) : Cluster :=
  { cluster with clients := cluster.clients.setNetwork network }

/-- Let the server and the site be as given. -/
def setServer (server : Server) (site : Site) : Cluster :=
  { cluster.setSite site with server }

/-- The addresses of the hub. -/
def addresses : HubAddresses := .ofConfig cluster.server.state.hub.owner.config

/-- The hub at the present time. -/
def hub : Hub := cluster.server.hub cluster.site.now

/-- A cluster without clients. -/
def build (config : Config) (site : Site) : Except Fault Cluster :=
  match Server.build config site with
  | (.error fault, _) => .error fault
  | (.ok server, site) =>
      let addresses := HubAddresses.ofConfig config
      let (notices, network) := Subscriber.connect site.network addresses.client.notification
      let (pings, network) := Subscriber.connect network addresses.engine.ping
      .ok { server, notices, pings, clients := { site := { site with network } } }

/-- Connect a client. -/
def connect (label identity : String) : Cluster :=
  let (dealer, network) :=
    Dealer.connect cluster.site.network cluster.addresses.client.registration identity
  let cluster := cluster.setNetwork network
  { cluster with clients := cluster.clients.put label (.dealer dealer) }

/-- Disconnect a client, and say whether it was there. -/
def disconnect (label : String) : Bool × Cluster :=
  let (known, clients) := cluster.clients.drop label
  (known, { cluster with clients })

/-- Let a client send a message to the hub; no answer if there is no such
client. -/
def send? (label : String) (message : Message) : Option (Bool × Cluster) :=
  (cluster.clients.dealer? label).map fun dealer =>
    let (sent, network) := dealer.send cluster.site.network message
    (sent, cluster.setNetwork network)

/-- Report about a task to an address. -/
def report (address : String) (message : Message) : Nat × Cluster :=
  let (count, network) := (Publisher.connected address).send cluster.site.network message
  (count, cluster.setNetwork network)

/-- Send a message as the heart of an identity that is only there for that. -/
def pong (identity : String) (message : Message) : Bool × Cluster :=
  let (dealer, network) :=
    Dealer.connect cluster.site.network cluster.addresses.engine.pong identity
  let (sent, network) := dealer.send network message
  (sent, cluster.setNetwork (dealer.close network))

/-- Bind the scheduler. -/
def bindScheduler : Except Fault Cluster := do
  let (router, network) ← Router.bind cluster.site.network cluster.addresses.client.task
  return { cluster.setNetwork network with scheduler := some router }

/-- Close the scheduler, and say whether it was there. -/
def dropScheduler : Bool × Cluster :=
  match cluster.scheduler with
  | none => (false, cluster)
  | some router =>
      (true, { cluster.setNetwork (router.close cluster.site.network) with scheduler := none })

/-- Let the hub do something outside its loop. -/
def visit {β : Type} (act : Hub → β × Hub) : β × Cluster :=
  let (result, server, site) := cluster.server.visit cluster.site act
  (result, cluster.setServer server site)

/-- Run the server for some time. -/
def runFor (fuel : Nat) (limit : Duration) : Option Cluster :=
  (cluster.server.runFor fuel limit cluster.site).map fun (server, site) =>
    cluster.setServer server site

/-- Take everything that waits in an inbox. -/
def drain (inbox : InboxId) : List Message × Cluster :=
  let (messages, network) := cluster.site.network.receiveAll inbox
  (messages, cluster.setNetwork network)

end Cluster

end ClusterHub.Simulation
