import ClusterHub.Heart.Echo
import ClusterHub.Reactor.Basic
import ClusterHub.Wire.Build

/-!
# Engines

An engine starts a heart, asks the hub to be registered, and runs its loop.
When the loop stops it unregisters, if it was registered, and stops its heart.
Whoever hosts the engine may keep state next to it and have timers of its own.
-/

namespace ClusterHub

/-- An engine's tie to the hub. -/
structure EngineLink where
  /-- The name it was started under; empty before that. -/
  name : String := ""
  queue : String := ""
  /-- The number that the hub gave it. -/
  id : Option EngineId := none
  /-- Why the hub refused it. -/
  rejected : Option String := none
  heart : Option Heart := none
  /-- The socket that registers. -/
  dealer : Option Dealer := none

namespace EngineLink

/-- The number of pings that the engine's heart has answered. -/
def beats (link : EngineLink) : Nat := (link.heart.map Heart.count).getD 0

/-- Whether the hub has accepted the engine. -/
def isRegistered (link : EngineLink) : Bool := link.id.isSome

/-- Take in a reply of the hub.  Anything but an answer to the registration is
ignored. -/
def takeReply (link : EngineLink) (message : Message) : EngineLink :=
  if (message.text 0).toOption = some QueryKind.registration.replyTag then
    match message.payload (Reply EngineAck) 1 with
    | .ok (.ok ack) => { link with id := some ack.id }
    | .ok (.error _ reason) => { link with rejected := some reason }
    | .error _ => link
  else link

/-- Unregister if that is called for. -/
def unregister (link : EngineLink) (dealer : Dealer) (net : Network) : Network :=
  if link.isRegistered then
    (dealer.send net (.query .unregistration (⟨link.queue⟩ : Unregistration))).2
  else net

/-- Leave the hub, and stop the heart. -/
def leave (link : EngineLink) (net : Network) : EngineLink × Network :=
  let net := match link.dealer with
    | some dealer => dealer.close (link.unregister dealer net)
    | none => net
  let net := match link.heart with
    | some heart => heart.close net
    | none => net
  ({ link with dealer := none, heart := none }, net)

/-- Let the heart answer all pings that wait for it. -/
def answerPings (link : EngineLink) (net : Network) : EngineLink × Network :=
  match link.heart with
  | none => (link, net)
  | some heart =>
      let (heart, net) := heart.answerAll net
      ({ link with heart := some heart }, net)

end EngineLink

/-- What an engine's loop works on: its link, and what its host keeps. -/
structure HostedLink (κ : Type) where
  link : EngineLink := {}
  host : κ

/-- What the callbacks of an engine's loop see and change. -/
abbrev HostedLink.Scene (κ α : Type) := Reactor.Scene (HostedLink κ) α

/-- What an engine's loop reads. -/
inductive EngineChannel
  /-- The replies of the hub. -/
  | replies
deriving DecidableEq, Repr

/-- An engine with its loop. -/
structure Engine (κ α : Type) where
  services : List String
  reactor : Reactor (HostedLink κ) EngineChannel α

namespace Engine

variable {κ α : Type}

/-- An engine that has not been started. -/
def ofServices (services : List String) (site : Site) (host : κ) : Engine κ α :=
  ⟨services, .ofState site.now site.network { host }⟩

/-- The engine's tie to the hub. -/
def link (engine : Engine κ α) : EngineLink := engine.reactor.scene.rest.state.link

/-- The network and the clock of an engine. -/
def site (engine : Engine κ α) : Site where
  network := engine.reactor.scene.rest.network
  now := engine.reactor.scene.now

/-- Let the network and the clock be as given. -/
def setSite (engine : Engine κ α) (site : Site) : Engine κ α :=
  { engine with reactor := engine.reactor.modifyScene fun scene =>
      { scene with now := site.now, rest.network := site.network } }

/-- Change what surrounds an engine's loop. -/
def modifyRest (engine : Engine κ α)
    (change : Reactor.Surroundings (HostedLink κ) → Reactor.Surroundings (HostedLink κ)) :
    Engine κ α :=
  { engine with reactor := engine.reactor.modifyScene fun scene => scene.modifyRest change }

/-- Stop an engine's loop after some time. -/
def scheduleShutdown (engine : Engine κ α) (after : Duration) : Engine κ α :=
  { engine with
    reactor := engine.reactor.modifyScene fun scene => scene.scheduleFor after .deadline }

/-- The callbacks of an engine's loop; `run` carries out its host's timers. -/
def handlers (run : α → HostedLink.Scene κ α → HostedLink.Scene κ α) :
    Reactor.Handlers (HostedLink κ) EngineChannel α where
  message := fun _ message scene => scene.modifyState fun state =>
    { state with link := state.link.takeReply message }
  timer := run

/-- The request with which an engine joins. -/
def request (services : List String) (name : String) : Registration where
  heart := name ++ "-heart"
  queue := name ++ "-queue"
  name := name
  services := services

/-- Start an engine's heart and ask for its registration. -/
def join (engine : Engine κ α) (name : String) (addresses : EngineAddresses) :
    Except Fault Unit × Engine κ α :=
  let started := engine.link.name
  if started.isEmpty then
    let request := request engine.services name
    let net := engine.reactor.scene.rest.network
    let (heart, net) := Heart.connect net addresses.ping addresses.pong request.heart
    let (dealer, net) := Dealer.connect net addresses.registration (name ++ "-reg")
    match engine.reactor.add "registration" dealer.inbox .replies with
    | .error fault =>
        (.error fault, engine.modifyRest fun rest =>
          { rest with network := heart.close (dealer.close net) })
    | .ok reactor =>
        let (_, net) := dealer.send net (.query .registration request)
        (.ok (), Engine.modifyRest { engine with reactor } fun rest =>
          { rest with
            network := net
            state.link := { rest.state.link with
              name, queue := request.queue, heart := some heart, dealer := some dealer } })
  else (.error (.internal s!"engine `{started}' already started"), engine)

/-- Let the engine's heart answer all pings that wait for it. -/
def answerPings (engine : Engine κ α) : Engine κ α :=
  engine.modifyRest fun rest =>
    let (link, network) := rest.state.link.answerPings rest.network
    { rest with network, state.link := link }

/-- Leave the hub. -/
def leave (engine : Engine κ α) : Engine κ α :=
  engine.modifyRest fun rest =>
    let (link, network) := rest.state.link.leave rest.network
    { rest with network, state.link := link }

/-- Join under a name, run the loop until it is stopped, and leave.  There is
no answer if that takes more than `fuel` iterations. -/
def run (callback : α → HostedLink.Scene κ α → HostedLink.Scene κ α) (fuel : Nat)
    (name : String) (addresses : EngineAddresses) (engine : Engine κ α) :
    Option (Except Fault Unit × Engine κ α) :=
  match engine.join name addresses with
  | (.error fault, engine) => some (.error fault, engine)
  | (.ok (), engine) =>
      (engine.reactor.runWithin (handlers callback) fuel).map fun reactor =>
        (.ok (), leave { engine with reactor })

end Engine

end ClusterHub
