import ClusterHub.Heart.Echo
import ClusterHub.Hub.Sockets

/-!
# Hub servers

A hub with its sockets and its loop.  The loop hands each message to the hub
and sends out at once what the hub answers to it.  While a server is not
running it leaves the network and the clock to others.
-/

namespace ClusterHub

/-- What a server's loop reads. -/
inductive HubChannel
  | pongs
  | queries
  | traffic
  /-- The pings for a heart that beats within the server. -/
  | beacon (heart : Heart)

/-- What a server's loop works on. -/
structure ServerState where
  hub : MonitorState HeartDuty HubState
  sockets : HubSockets

/-- A hub that is not running at the moment. -/
abbrev Server := Reactor.Parked ServerState HubChannel Duty

namespace ServerState

/-- What a server's callbacks see and change. -/
abbrev Scene := Reactor.Scene ServerState Duty

/-- Send out everything that the hub has put up. -/
def flush (scene : Scene) : Scene :=
  scene.modifyRest fun rest =>
    let server := rest.state
    let outbox := server.hub.owner.outbox
    let network := server.hub.pings.foldl server.sockets.sendPing rest.network
    { network := outbox.foldl server.sockets.send network
      signal := if outbox.any Outgoing.isStop then rest.signal.request else rest.signal
      state := { server with hub.pings := [], hub.owner.outbox := [] } }

/-- Let the hub do something, and send out what comes of it. -/
def consult {β : Type} (act : Hub → β × Hub) (scene : Scene) : β × Scene :=
  let (result, hub) := act (scene.withRest scene.rest.state.hub)
  (result, flush (hub.withRest { scene.rest with state.hub := hub.rest }))

/-- Let the hub do something without a result. -/
def visit (act : Hub → Hub) (scene : Scene) : Scene :=
  (consult (fun hub => ((), act hub)) scene).2

/-- Handle a message. -/
def handle : HubChannel → Message → Scene → Scene
  | .pongs, message => visit fun hub => hub.dispatchPong message
  | .queries, message => visit fun hub => hub.dispatchQuery message
  | .traffic, message => visit fun hub => hub.dispatchTraffic message
  | .beacon heart, message => fun scene =>
      scene.modifyNetwork fun net => (heart.echo net message).2

/-- The callbacks of a server. -/
def handlers : Reactor.Handlers ServerState HubChannel Duty where
  message := handle
  timer duty := visit (Hub.runDuty duty)

end ServerState

namespace Server

/-- Open a hub with the given settings.  The first beat comes after one
interval. -/
def build (config : Config) (site : Site) : Except Fault Server × Site :=
  let addresses := HubAddresses.ofConfig config
  match HubSockets.open? site.network addresses with
  | (.error fault, network) => (.error fault, { site with network })
  | (.ok sockets, network) =>
      let site := { site with network }
      let hub := Hub.start config addresses.engine addresses.client site.now
      let (_, timers) := hub.timers.schedule site.now config.heartbeat (.own .beat)
      let server : Server := {
        endpoints := [
          { name := "heartbeat", inbox := sockets.pong.inbox, action := .pongs },
          { name := "query", inbox := sockets.query.inbox, action := .queries },
          { name := "monitor", inbox := sockets.monitor.inbox, action := .traffic }]
        timers
        state := { hub := hub.rest, sockets } }
      (.ok server, site)

variable (server : Server)

/-- The hub as it stands at an instant. -/
def hub (now : Instant) : Hub where
  now := now
  timers := server.timers
  rest := server.state.hub

/-- Let the hub do something outside the loop. -/
def visit {β : Type} (site : Site) (act : Hub → β × Hub) : β × Server × Site :=
  server.act site fun reactor =>
    let (result, scene) := ServerState.consult act reactor.scene
    (result, { reactor with scene })

/-- One iteration of the loop. -/
def poll (site : Site) (timeout : Option Duration) : Reactor.Outcome × Server × Site :=
  server.act site fun reactor => reactor.poll ServerState.handlers timeout

/-- Run until a stop is requested. -/
def run (fuel : Nat) (site : Site) : Option (Server × Site) :=
  ((server.resume site).runWithin ServerState.handlers fuel).map Reactor.park

/-- Run until a stop is requested or `limit` is over. -/
def runFor (fuel : Nat) (limit : Duration) (site : Site) : Option (Server × Site) :=
  ((server.resume site).runFor ServerState.handlers fuel limit).map Reactor.park

/-- Ask the loop to stop. -/
def requestStop : Server := { server with signal := server.signal.request }

/-- The endpoint of a heart within the server. -/
def beaconName (identity : String) : String := "heart:" ++ identity

/-- Start a heart within the server. -/
def addBeacon (site : Site) (identity : String) : Except Fault Server × Site :=
  let addresses := server.state.hub.owner.engineAddresses
  let (heart, network) := Heart.connect site.network addresses.ping addresses.pong identity
  match (server.resume { site with network }).add (beaconName identity) heart.pings.inbox
      (.beacon heart) with
  | .ok reactor => (.ok reactor.park.1, { site with network })
  | .error fault => (.error fault, { site with network := heart.close network })

/-- Free what an endpoint holds. -/
def closeChannel (net : Network) : HubChannel → Network
  | .beacon heart => heart.close net
  | _ => net

/-- Stop a heart within the server, and say whether it was there. -/
def removeBeacon (site : Site) (identity : String) : Bool × Server × Site :=
  let name := beaconName identity
  let (kept, removed) := server.endpoints.partition fun endpoint => endpoint.name ≠ name
  let network := removed.foldl (fun net endpoint => closeChannel net endpoint.action) site.network
  (!removed.isEmpty, { server with endpoints := kept }, { site with network })

/-- Close a server with all its sockets. -/
def close (site : Site) : Site :=
  site.modifyNetwork fun net =>
    server.endpoints.foldl (fun net endpoint => closeChannel net endpoint.action)
      (server.state.sockets.close net)

end Server

end ClusterHub
