import ClusterHub.Engine.Link
import ClusterHub.Hub.Snapshot
import ClusterHub.Simulation.Cluster

/-!
# Hosted engines

An engine at work, with steps that its host takes at given times.  The host is
either a whole cluster, whose hub is run now and then, or just a router in the
hub's place.  The echoes of the engine's heart go through the host's hands.
-/

namespace ClusterHub.Simulation

/-- What a host does in a step. -/
inductive HostStep
  /-- Run the hub for some time, and then carry the heart's echoes to it. -/
  | runHub (limit : Duration)
  /-- Let the router in the hub's place send a message. -/
  | reply (message : Message)
  /-- Close the router in the hub's place. -/
  | unbind
  /-- Only look. -/
  | look

/-- What a step came to. -/
inductive HostStepResult
  /-- The hub ran, and these echoes were carried to it. -/
  | ran (vitals : List Int) (echoes : List Message)
  /-- The router sent a message. -/
  | replied (sent : Except Fault Unit)
  | nothing

/-- A step that was taken. -/
structure HostEntry where
  /-- The name under which the step was asked for. -/
  name : String
  start : Instant
  /-- The engine's link after the step. -/
  link : EngineLink
  result : HostStepResult

/-- Who hosts an engine. -/
structure Host where
  /-- The hub with its surroundings, if there is one. -/
  cluster : Option Cluster
  /-- The router in the hub's place. -/
  router : Option Router
  /-- Where the echoes of the engine's heart arrive. -/
  tap : Router
  entries : List HostEntry := []

/-- An engine at work. -/
abbrev HostedEngine := Engine Host (String × HostStep)

namespace HostedEngine

/-- What a host's steps see and change. -/
abbrev Scene := HostedLink.Scene Host (String × HostStep)

/-- Where the echoes of the engine's heart are taken. -/
def tapAddress : String := "inproc://pong-tap"

/-- Where the engine finds the router in the hub's place. -/
def routerAddress : String := "inproc://reg"

/-- The addresses that an engine is given where there is no hub. -/
def hublessAddresses : EngineAddresses where
  registration := routerAddress
  control := ""
  mux := ""
  task := ""
  output := ""
  ping := "inproc://ping"
  pong := tapAddress

variable (scene : Scene)

/-- The network and the clock. -/
def site : Site := { network := scene.rest.network, now := scene.now }

/-- Let the network, the clock and the host be as given. -/
def settle (site : Site) (host : Host) : Scene :=
  { scene with
    now := site.now
    rest.network := site.network
    rest.state.host := host }

/-- The host. -/
def host : Host := scene.rest.state.host

/-- Carry an echo to the hub, as the heart that it is from. -/
def carry (cluster : Cluster) (echo : Message) : Cluster :=
  match echo.popFront? with
  | none => cluster
  | some (identity, message) => (cluster.pong (Text.lossy identity) message).2

/-- Run the hub, then carry the heart's echoes to it. -/
def runHub (fuel : Nat) (limit : Duration) (cluster : Cluster) : HostStepResult × Scene :=
  match (cluster.setSite (site scene)).runFor fuel limit with
  | none => (.nothing, scene)
  | some cluster =>
      let (link, network) := scene.rest.state.link.answerPings cluster.site.network
      let (echoes, cluster) := (cluster.setNetwork network).drain (host scene).tap.inbox
      let cluster := echoes.foldl carry cluster
      let scene := settle scene cluster.site { host scene with cluster := some cluster }
      (.ran (Hub.vitals cluster.hub) echoes, scene.modifyState fun state => { state with link })

/-- Take a step. -/
def perform (fuel : Nat) (step : HostStep) : HostStepResult × Scene :=
  match step, (host scene).cluster, (host scene).router with
  | .runHub limit, some cluster, _ => runHub scene fuel limit cluster
  | .reply message, none, some router =>
      let (sent, network) := router.send scene.rest.network message
      (.replied sent, scene.modifyNetwork fun _ => network)
  | .unbind, none, some router =>
      (.nothing, settle scene ((site scene).modifyNetwork router.close)
        { host scene with router := none })
  | _, _, _ => (.nothing, scene)

/-- Take a step and log it. -/
def callback (fuel : Nat) (step : String × HostStep) : Scene :=
  let (result, after) := perform scene fuel step.2
  let entry : HostEntry := ⟨step.1, scene.now, after.rest.state.link, result⟩
  settle after (site after) { host after with entries := (host after).entries ++ [entry] }

/-- An engine with its host before the start.  Without a cluster, the router in
the hub's place is bound if that is wanted. -/
def build (services : List String) (cluster : Option Cluster) (bound : Bool) :
    Except Fault (EngineAddresses × HostedEngine) := do
  let site := (cluster.map Cluster.site).getD {}
  let (tap, network) ← Router.bind site.network tapAddress
  match cluster with
  | some cluster =>
      return ({ cluster.addresses.engine with pong := tapAddress },
        .ofServices services { site with network } { cluster := some cluster, router := none, tap })
  | none =>
      let (router, network) ←
        if bound then (Router.bind network routerAddress).map fun (r, net) => (some r, net)
        else pure (none, network)
      return (hublessAddresses,
        .ofServices services { site with network } { cluster := none, router, tap })

variable (engine : HostedEngine)

/-- Plan a step of the host. -/
def plan (delay : Duration) (name : String) (step : HostStep) : HostedEngine :=
  { engine with reactor := (engine.reactor.schedule delay (name, step)).2 }

/-- Start the engine under a name, and run it until it has left. -/
def start (fuel : Nat) (name : String) (addresses : EngineAddresses) :
    Option (Except Fault Unit × HostedEngine) :=
  Engine.run (fun step scene => callback scene fuel step) fuel name addresses engine

/-- Ask the engine to stop. -/
def requestStop : HostedEngine := { engine with reactor := engine.reactor.requestStop }

/-- The steps that were taken. -/
def entries : List HostEntry := (host engine.reactor.scene).entries

/-- The present time. -/
def now : Instant := engine.reactor.scene.now

/-- What the router in the hub's place has received. -/
def received : List Message :=
  match (host engine.reactor.scene).router with
  | some router => engine.reactor.scene.rest.network.waiting router.inbox
  | none => []

/-- The hub with its surroundings, at the present time. -/
def cluster? : Option Cluster :=
  (host engine.reactor.scene).cluster.map fun cluster =>
    cluster.setSite (site engine.reactor.scene)

end HostedEngine

end ClusterHub.Simulation
