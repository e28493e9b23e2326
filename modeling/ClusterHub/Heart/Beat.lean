import ClusterHub.Heart.Monitor
import ClusterHub.Timer.Pass

/-!
# Beats

One beat schedules the next one, closes the round, tells the handlers of the
hearts that are new and of those that failed, and sends a ping.  Handlers may
change the monitor, the timers and their owner's state; those that they
register are told from the next beat on.
-/

namespace ClusterHub

/-- What handlers can reach apart from the clock and the timers. -/
structure MonitorState (η ρ : Type) where
  monitor : Monitor η
  /-- The texts of the pings sent, oldest first. -/
  pings : List String := []
  /-- The state of the monitor's owner. -/
  owner : ρ

/-- What a handler sees and changes. -/
abbrev MonitorWorld (η ρ α : Type) := World (MonitorState η ρ) α

namespace MonitorWorld

variable {η ρ α : Type}

/-- Change the monitor. -/
def modifyMonitor (world : MonitorWorld η ρ α) (change : Monitor η → Monitor η) :
    MonitorWorld η ρ α :=
  world.modifyRest fun state => { state with monitor := change state.monitor }

/-- Change the owner's state. -/
def modifyOwner (world : MonitorWorld η ρ α) (change : ρ → ρ) : MonitorWorld η ρ α :=
  world.modifyRest fun state => { state with owner := change state.owner }

/-- Run handlers in order for one heart. -/
def callEach (run : η → String → MonitorWorld η ρ α → MonitorWorld η ρ α) (handlers : List η)
    (heart : String) (world : MonitorWorld η ρ α) : MonitorWorld η ρ α :=
  handlers.foldl (fun world handler => run handler heart world) world

/-- Run handlers for each of some new hearts. -/
def announceNew (run : η → String → MonitorWorld η ρ α → MonitorWorld η ρ α) (handlers : List η)
    (hearts : List String) (world : MonitorWorld η ρ α) : MonitorWorld η ρ α :=
  hearts.foldl (fun world heart => callEach run handlers heart world) world

/-- Run handlers for each of some failed hearts, and count them. -/
def announceFailures (run : η → String → MonitorWorld η ρ α → MonitorWorld η ρ α)
    (handlers : List η) (hearts : List String) (world : MonitorWorld η ρ α) : MonitorWorld η ρ α :=
  hearts.foldl (fun world heart =>
    callEach run handlers heart (modifyMonitor world Monitor.countFailure)) world

/-- Send the monitor's ping. -/
def sendPing (world : MonitorWorld η ρ α) : MonitorWorld η ρ α :=
  world.modifyRest fun state =>
    { state with pings := state.pings ++ [state.monitor.currentPing] }

/-- One beat.  `run` carries out a handler, and `again` is the timer action
that makes the next beat. -/
def beat (run : η → String → MonitorWorld η ρ α → MonitorWorld η ρ α) (again : α)
    (world : MonitorWorld η ρ α) : MonitorWorld η ρ α :=
  let (transition, monitor) := world.rest.monitor.roll world.now
  let world := world.scheduleFor monitor.interval again
  let world := modifyMonitor world fun _ => monitor.withoutHandlers
  let world := announceNew run monitor.onNew transition.newHearts world
  let world := announceFailures run monitor.onFailure transition.failures world
  let world := modifyMonitor world fun m =>
    m.withEarlierHandlers monitor.onNew monitor.onFailure
  sendPing world

end MonitorWorld

end ClusterHub
