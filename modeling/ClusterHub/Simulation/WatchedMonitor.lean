import ClusterHub.Heart.Beat
import ClusterHub.Transport.Socket

/-!
# Watched monitors

A heart monitor whose handlers are given as data, next to the socket at which
it would take echoes.  Handlers log whom they were told of and may then register
another handler or schedule a timer.
-/

namespace ClusterHub.Simulation

/-- What a handler does after it has logged its heart. -/
inductive Sequel
  | nothing
  /-- Register another handler of new hearts. -/
  | watchNew
  /-- Register another handler of failed hearts. -/
  | watchFailure
  /-- Schedule a timer that is due at once. -/
  | timer

/-- A handler: its tag in the log, and what it does next. -/
structure Watcher where
  tag : String
  sequel : Sequel

/-- What is logged. -/
inductive Sighting
  /-- A handler was told of a heart that is or is not alive. -/
  | handler (tag heart : String) (alive : Bool)
  /-- A handler's timer ran. -/
  | timer (tag heart : String)

/-- The timers of a watched monitor. -/
inductive WatchTimer
  | beat
  | note (tag heart : String)

/-- What a watched monitor keeps. -/
structure WatchState where
  network : Network
  router : Router
  sightings : List Sighting := []
  /-- The texts of the pings at the start and after each beat that was not
  made by a timer. -/
  stamps : List String

/-- A monitor that is watched. -/
abbrev WatchedMonitor := MonitorWorld Watcher WatchState WatchTimer

namespace WatchedMonitor

/-- Log something. -/
def log (watched : WatchedMonitor) (sighting : Sighting) : WatchedMonitor :=
  watched.modifyOwner fun s => { s with sightings := s.sightings ++ [sighting] }

/-- Carry out a handler. -/
def runWatcher (watcher : Watcher) (heart : String) (watched : WatchedMonitor) : WatchedMonitor :=
  let watched := log watched (.handler watcher.tag heart (watched.rest.monitor.isAlive heart))
  let another : Watcher := ⟨watcher.tag ++ "+", .nothing⟩
  match watcher.sequel with
  | .nothing => watched
  | .watchNew => watched.modifyMonitor fun m => m.addNewHandler another
  | .watchFailure => watched.modifyMonitor fun m => m.addFailureHandler another
  | .timer => watched.scheduleFor 0 (.note (watcher.tag ++ "!") heart)

/-- Carry out a timer. -/
def runTimer : WatchTimer → WatchedMonitor → WatchedMonitor
  | .beat, watched => watched.beat runWatcher .beat
  | .note tag heart, watched => log watched (.timer tag heart)

/-- Make a beat and note the text of its ping. -/
def beatOnce (watched : WatchedMonitor) : WatchedMonitor :=
  let watched := runTimer .beat watched
  watched.modifyOwner fun s => { s with stamps := s.stamps ++ [watched.rest.monitor.currentPing] }

/-- The text that was noted so many places before the last one, or the first
one if there are fewer. -/
def stampBefore (watched : WatchedMonitor) (back : Nat) : String :=
  let stamps := watched.rest.owner.stamps
  stamps.getD (stamps.length - 1 - back) ""

/-- Take in an echo. -/
def pong (watched : WatchedMonitor) (message : Message) : WatchedMonitor :=
  watched.modifyMonitor fun m => m.handlePong message

/-- Send a message to the socket, and say whether it arrived. -/
def stray (watched : WatchedMonitor) (address : String) (message : Message) :
    Bool × WatchedMonitor :=
  let (dealer, network) := Dealer.connect watched.rest.owner.network address "stray"
  let (sent, network) := dealer.send network message
  (sent, watched.modifyOwner fun s => { s with network := dealer.close network })

/-- Take the log and the pings sent. -/
def takeLog (watched : WatchedMonitor) : (List Sighting × List String) × WatchedMonitor :=
  ((watched.rest.owner.sightings, watched.rest.pings),
   watched.modifyRest fun state => { state with pings := [], owner.sightings := [] })

/-- A watched monitor with its socket at an address. -/
def start (interval : Duration) (address : String) : Except Fault WatchedMonitor := do
  let monitor : Monitor Watcher := .start interval 0
  let (router, network) ← Router.bind {} address
  return {
    now := 0
    timers := {}
    rest := { monitor, owner := { network, router, stamps := [monitor.currentPing] } } }

end WatchedMonitor

end ClusterHub.Simulation
