import ClusterHub.Config.Ports
import ClusterHub.Hub.Traffic
import ClusterHub.Transport.Socket

/-!
# The hub's sockets

Where a hub is bound, and how its outbox is emptied.  Thirteen consecutive
ports are set aside; the hub itself is bound at three of them and at one
address that has no port, and publishes at two.  If an address is taken nothing
stays bound.
-/

namespace ClusterHub

/-- The addresses of a hub. -/
structure HubAddresses where
  client : ClientAddresses
  engine : EngineAddresses
  /-- Where reports about tasks are sent. -/
  monitor : String

namespace HubAddresses

/-- Where reports about tasks can be sent as well, without a port. -/
def localMonitor : String := "inproc://monitor"

/-- The addresses that follow from the settings.  Clients get the first port of
each pair, engines the second. -/
def ofConfig (config : Config) : HubAddresses :=
  let pool : PortPool := ⟨config.startPort⟩
  let (heartbeat, pool) := pool.takePair
  let (mux, pool) := pool.takePair
  let (task, pool) := pool.takePair
  let (control, pool) := pool.takePair
  let (output, pool) := pool.takePair
  let (monitor, pool) := pool.take
  let (notification, pool) := pool.take
  let (registration, _) := pool.take
  { monitor := config.address monitor
    client := {
      registration := config.address registration
      control := config.address control.1
      mux := config.address mux.1
      task := config.address task.1
      taskScheme := "default"
      output := config.address output.1
      notification := config.address notification }
    engine := {
      registration := config.address registration
      control := config.address control.2
      mux := config.address mux.2
      task := config.address task.2
      output := config.address output.2
      ping := config.address heartbeat.1
      pong := config.address heartbeat.2 } }

end HubAddresses

/-- The sockets of a hub. -/
structure HubSockets where
  /-- Registrations and other queries. -/
  query : Router
  /-- Echoes of pings. -/
  pong : Router
  ping : Publisher
  /-- Notices of engines that join and leave. -/
  notifier : Publisher
  /-- Reports about tasks. -/
  monitor : Subscriber
  /-- Tasks that are submitted again. -/
  resubmit : Dealer

namespace HubSockets

/-- The identity under which tasks are submitted again. -/
def resubmitIdentity : String := "hub-resubmit"

/-- Bind a subscriber at two addresses. -/
def bindMonitor (net : Network) (first second : String) :
    Except Fault Subscriber × Network :=
  match Subscriber.bind net first with
  | .error fault => (.error fault, net)
  | .ok (monitor, net) =>
      match monitor.bindAlso net second with
      | .error fault => (.error fault, monitor.close net)
      | .ok (monitor, net) => (.ok monitor, net)

/-- Open all sockets, or none. -/
def open? (net : Network) (addresses : HubAddresses) : Except Fault HubSockets × Network :=
  match Router.bind net addresses.engine.registration with
  | .error fault => (.error fault, net)
  | .ok (query, net) =>
      match Router.bind net addresses.engine.pong with
      | .error fault => (.error fault, query.close net)
      | .ok (pong, net) =>
          match bindMonitor net addresses.monitor HubAddresses.localMonitor with
          | (.error fault, net) => (.error fault, query.close (pong.close net))
          | (.ok monitor, net) =>
              let (resubmit, net) := Dealer.connect net addresses.client.task resubmitIdentity
              (.ok {
                query, pong, monitor, resubmit
                ping := .bound addresses.engine.ping
                notifier := .bound addresses.client.notification }, net)

/-- Close all sockets. -/
def close (sockets : HubSockets) (net : Network) : Network :=
  sockets.resubmit.close (sockets.monitor.close (sockets.query.close (sockets.pong.close net)))

/-- Send one thing out.  Whether it arrives makes no difference to the hub. -/
def send (sockets : HubSockets) (net : Network) : Outgoing → Network
  | .reply recipient kind content trailing =>
      (sockets.query.send net
        (.reply recipient kind (content.map Answer.toJson) trailing)).2
  | .notice notice => (sockets.notifier.send net notice.toMessage).2
  | .resubmission task body =>
      (sockets.resubmit.send net ⟨[.ofText task, body]⟩).2
  | .stop => net

/-- Publish a ping. -/
def sendPing (sockets : HubSockets) (net : Network) (ping : String) : Network :=
  (sockets.ping.send net ⟨[.ofText ping]⟩).2

end HubSockets

end ClusterHub
