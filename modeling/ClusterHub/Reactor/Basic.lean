import ClusterHub.Timer.Pass
import ClusterHub.Transport.Network

/-!
# Event loops

A loop reads the inboxes of its endpoints and runs its timers, one thing at a
time.  An iteration waits until something can be read, the next timer is due
or the given time is over; then it reads at most one message from each
endpoint, in the order of registration, and makes one pass over the timers.
-/

namespace ClusterHub

/-- The request that a loop stop.  Every request also leaves a wake, so that a
waiting loop notices. -/
structure StopSignal where
  requested : Bool := false
  wakes : Nat := 0
deriving DecidableEq, Repr, Inhabited

namespace StopSignal

/-- Ask the loop to stop. -/
def request (signal : StopSignal) : StopSignal := ⟨true, signal.wakes + 1⟩

/-- Take back all requests. -/
def reset (_ : StopSignal) : StopSignal := {}

end StopSignal

namespace Reactor

/-- What a loop's timers do: end a run whose time is over, or an action of the
owner. -/
inductive Alarm (α : Type)
  | deadline
  | own (action : α)
deriving DecidableEq, Repr

/-- What callbacks can reach apart from the clock and the timers. -/
structure Surroundings (σ : Type) where
  network : Network
  signal : StopSignal := {}
  state : σ

/-- What a callback sees and changes. -/
abbrev Scene (σ α : Type) := World (Surroundings σ) (Alarm α)

/-- A source of messages, and what is done with them. -/
structure Endpoint (ε : Type) where
  name : String
  inbox : InboxId
  action : ε
  /-- Whether the inbox was found to have no writers and is no longer read. -/
  closed : Bool := false
deriving DecidableEq, Repr

/-- How the actions of endpoints and timers are carried out. -/
structure Handlers (σ ε α : Type) where
  message : ε → Message → Scene σ α → Scene σ α
  timer : α → Scene σ α → Scene σ α

/-- What an iteration came to. -/
inductive Outcome
  /-- Messages were read and timers run, so many of each. -/
  | ran (messages timers : Nat)
  /-- A stop was requested, and nothing was done. -/
  | stopped
  /-- Nothing will ever end the wait. -/
  | asleep
deriving DecidableEq, Repr

end Reactor

open Reactor

variable {σ ε α : Type}

namespace Reactor.Scene

/-- Ask the loop to stop. -/
def requestStop (scene : Scene σ α) : Scene σ α :=
  scene.modifyRest fun rest => { rest with signal := rest.signal.request }

/-- Change the network. -/
def modifyNetwork (scene : Scene σ α) (change : Network → Network) : Scene σ α :=
  scene.modifyRest fun rest => { rest with network := change rest.network }

/-- Change the owner's state. -/
def modifyState (scene : Scene σ α) (change : σ → σ) : Scene σ α :=
  scene.modifyRest fun rest => { rest with state := change rest.state }

end Reactor.Scene

/-- An event loop with its endpoints, in the order of registration. -/
structure Reactor (σ ε α : Type) where
  endpoints : List (Endpoint ε) := []
  scene : Scene σ α

namespace Reactor

/-- A loop without endpoints and timers. -/
def ofState (now : Instant) (network : Network) (state : σ) : Reactor σ ε α where
  scene := { now, timers := {}, rest := { network, state } }

/-- Register an endpoint under a new name. -/
def add (reactor : Reactor σ ε α) (name : String) (inbox : InboxId) (action : ε) :
    Except Fault (Reactor σ ε α) :=
  if reactor.endpoints.any fun endpoint => endpoint.name = name then
    .error (.duplicateEndpoint name)
  else
    .ok { reactor with endpoints := reactor.endpoints ++ [{ name, inbox, action }] }

/-- Remove an endpoint, and say whether it was there. -/
def remove (reactor : Reactor σ ε α) (name : String) : Bool × Reactor σ ε α :=
  let kept := reactor.endpoints.filter fun endpoint => endpoint.name ≠ name
  (kept.length ≠ reactor.endpoints.length, { reactor with endpoints := kept })

/-- Change the scene. -/
def modifyScene (reactor : Reactor σ ε α) (change : Scene σ α → Scene σ α) :
    Reactor σ ε α :=
  { reactor with scene := change reactor.scene }

/-- Schedule an action of the owner. -/
def schedule (reactor : Reactor σ ε α) (delay : Duration) (action : α) :
    TimerHandle × Reactor σ ε α :=
  let (handle, scene) := reactor.scene.schedule delay (.own action)
  (handle, { reactor with scene })

/-- Ask the loop to stop. -/
def requestStop (reactor : Reactor σ ε α) : Reactor σ ε α :=
  reactor.modifyScene Scene.requestStop

/-- Take back all requests to stop. -/
def resetSignal (reactor : Reactor σ ε α) : Reactor σ ε α :=
  reactor.modifyScene fun scene =>
    scene.modifyRest fun rest => { rest with signal := rest.signal.reset }

/-- A loop that is not running, without the network and the clock, which it
shares with others. -/
structure Parked (σ ε α : Type) where
  endpoints : List (Endpoint ε) := []
  timers : Timers (Alarm α) := {}
  signal : StopSignal := {}
  state : σ

/-- Take the network and the clock away from a loop. -/
def park (reactor : Reactor σ ε α) : Parked σ ε α × Site :=
  ({ endpoints := reactor.endpoints
     timers := reactor.scene.timers
     signal := reactor.scene.rest.signal
     state := reactor.scene.rest.state },
   { network := reactor.scene.rest.network, now := reactor.scene.now })

/-- Give a parked loop the network and the clock. -/
def Parked.resume (parked : Parked σ ε α) (site : Site) : Reactor σ ε α where
  endpoints := parked.endpoints
  scene := {
    now := site.now
    timers := parked.timers
    rest := { network := site.network, signal := parked.signal, state := parked.state } }

/-- Let a parked loop do something. -/
def Parked.act {β : Type} (parked : Parked σ ε α) (site : Site)
    (run : Reactor σ ε α → β × Reactor σ ε α) : β × Parked σ ε α × Site :=
  let (result, reactor) := run (parked.resume site)
  (result, reactor.park)

/-! ## One iteration -/

/-- Whether a wait would end at once. -/
def isReady (endpoints : List (Endpoint ε)) (scene : Scene σ α) : Bool :=
  0 < scene.rest.signal.wakes || endpoints.any fun endpoint =>
    !endpoint.closed && scene.rest.network.isReady endpoint.inbox

/-- The longest wait: the shorter of the time given and that until the next
timer, or without end if there is neither. -/
def waitLimit (timeout next : Option Duration) : Option Duration :=
  match timeout, next with
  | some a, some b => some (min a b)
  | some a, none => some a
  | none, next => next

/-- Carry out a timer's action. -/
def runAlarm (handlers : Handlers σ ε α) : Alarm α → Scene σ α → Scene σ α
  | .deadline, scene => scene.requestStop
  | .own action, scene => handlers.timer action scene

/-- Read at most one message from each endpoint.  Gives how many there were. -/
def readEach (handlers : Handlers σ ε α) :
    List (Endpoint ε) → Scene σ α → Nat × List (Endpoint ε) × Scene σ α
  | [], scene => (0, [], scene)
  | endpoint :: endpoints, scene =>
      if endpoint.closed then
        let (count, rest, scene) := readEach handlers endpoints scene
        (count, endpoint :: rest, scene)
      else match scene.rest.network.receive endpoint.inbox with
        | .message message network =>
            let scene := handlers.message endpoint.action message
              (Scene.modifyNetwork scene fun _ => network)
            let (count, rest, scene) := readEach handlers endpoints scene
            (count + 1, endpoint :: rest, scene)
        | .nothing =>
            let (count, rest, scene) := readEach handlers endpoints scene
            (count, endpoint :: rest, scene)
        | .closed =>
            let (count, rest, scene) := readEach handlers endpoints scene
            (count, { endpoint with closed := true } :: rest, scene)

/-- Read messages and run timers, without waiting. -/
def dispatch (handlers : Handlers σ ε α) (reactor : Reactor σ ε α) :
    Outcome × Reactor σ ε α :=
  let (messages, endpoints, scene) := readEach handlers reactor.endpoints reactor.scene
  let (timers, scene) := scene.fireDue (runAlarm handlers)
  (.ran messages timers, ⟨endpoints, scene⟩)

/-- One iteration, which waits for at most `timeout`. -/
def poll (handlers : Handlers σ ε α) (timeout : Option Duration) (reactor : Reactor σ ε α) :
    Outcome × Reactor σ ε α :=
  if reactor.scene.rest.signal.requested then (.stopped, reactor)
  else if isReady reactor.endpoints reactor.scene then dispatch handlers reactor
  else match waitLimit timeout (reactor.scene.timers.nextWait reactor.scene.now) with
    | none => (.asleep, reactor)
    | some wait => dispatch handlers (reactor.modifyScene fun scene => scene.elapse wait)

/-- Iterate until a stop is requested, at most `fuel` times.  There is no
answer if the loop would go on. -/
def runWithin (handlers : Handlers σ ε α) : Nat → Reactor σ ε α → Option (Reactor σ ε α)
  | 0, _ => none
  | fuel + 1, reactor =>
      match poll handlers none reactor with
      | (.ran _ _, reactor) => runWithin handlers fuel reactor
      | (.stopped, reactor) => some reactor.resetSignal
      | (.asleep, _) => none

/-- Iterate until a stop is requested or `limit` is over. -/
def runFor (handlers : Handlers σ ε α) (fuel : Nat) (limit : Duration)
    (reactor : Reactor σ ε α) : Option (Reactor σ ε α) :=
  let (handle, scene) := reactor.scene.schedule limit .deadline
  (runWithin handlers fuel { reactor with scene }).map fun reactor =>
    reactor.modifyScene fun scene => scene.cancel handle

end Reactor

end ClusterHub
