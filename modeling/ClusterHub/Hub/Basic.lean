import ClusterHub.Config.Basic
import ClusterHub.Engine.Registry
import ClusterHub.Heart.Beat
import ClusterHub.Metrics.Hub
import ClusterHub.Reactor.Basic
import ClusterHub.Task.Report
import ClusterHub.Wire.Build

/-!
# The hub

A hub is a heart monitor whose owner keeps the registry of engines and the
ledger of tasks.  What it sends does not go out at once: it is put into an
outbox, oldest first, which whoever runs the hub empties.
-/

namespace ClusterHub

/-- What the hub does when the monitor reports a heart. -/
inductive HeartDuty
  /-- Finish the registration that waits for the heart. -/
  | welcome
  /-- Give up the engine of the heart. -/
  | giveUp
deriving DecidableEq, Repr

/-- What the hub's timers do. -/
inductive Duty
  /-- Make a beat. -/
  | beat
  /-- Delete the registration of a heart that was not seen in time. -/
  | purgeStalled (heart : String)
  /-- Complete the tasks of an engine that died, and forget the engine. -/
  | sweepStranded (engine : EngineId) (queue : String)
  /-- Stop the loop. -/
  | stop
deriving DecidableEq, Repr

/-- What the hub answers when all is well. -/
inductive Answer
  | engine (ack : EngineAck)
  | load (report : LoadReport)
  | queues (report : QueueReport)
  | purged (report : PurgeReport)
  | results (report : ResultReport)
  | history (report : HistoryReport)
  | tasks (listing : TaskListing)
  | resubmitted (report : ResubmitReport)
  | stopping (ack : ShutdownAck)
  | directory (found : Directory)

/-- The JSON form of an answer. -/
def Answer.toJson : Answer → Json
  | .engine ack => Payload.toJson ack
  | .load report => Payload.toJson report
  | .queues report => Payload.toJson report
  | .purged report => Payload.toJson report
  | .results report => Payload.toJson report
  | .history report => Payload.toJson report
  | .tasks listing => Payload.toJson listing
  | .resubmitted report => Payload.toJson report
  | .stopping ack => Payload.toJson ack
  | .directory found => Payload.toJson found

/-- What the hub broadcasts. -/
inductive Notice
  | joined (engine : EngineNotice)
  | left (engine : EngineNotice)
  | stopping
deriving DecidableEq, Repr

/-- The message of a notice. -/
def Notice.toMessage : Notice → Message
  | .joined engine => .engineNotice .joined engine
  | .left engine => .engineNotice .left engine
  | .stopping => .tagged NoticeKind.stopping.tag

/-- Something that the hub sends. -/
inductive Outgoing
  /-- The reply to a query, with frames that follow it. -/
  | reply (recipient : Frame) (kind : QueryKind) (content : Reply Answer)
      (trailing : List Frame)
  /-- A broadcast. -/
  | notice (notice : Notice)
  /-- The body of a task that is submitted again. -/
  | resubmission (task : String) (body : Frame)
  /-- The wish that the loop stop. -/
  | stop

/-- Whether the loop is to stop. -/
def Outgoing.isStop : Outgoing → Bool
  | .stop => true
  | _ => false

/-- What a hub keeps apart from its heart monitor. -/
structure HubState where
  config : Config
  registry : Registry := {}
  ledger : Ledger := {}
  engineAddresses : EngineAddresses
  clientAddresses : ClientAddresses
  metrics : HubMetrics := {}
  /-- What is to be sent, oldest first. -/
  outbox : List Outgoing := []
  /-- The timers of queries that were handled outside the loop. -/
  aside : Timers (Reactor.Alarm Duty) := {}

/-- A hub with its clock and its timers. -/
abbrev Hub := MonitorWorld HeartDuty HubState (Reactor.Alarm Duty)

namespace Hub

/-- A hub that nobody has registered with. -/
def start (config : Config) (engineAddresses : EngineAddresses)
    (clientAddresses : ClientAddresses) (now : Instant) : Hub where
  now := now
  timers := {}
  rest := {
    monitor := ((Monitor.start config.heartbeat now).addNewHandler .welcome).addFailureHandler
      .giveUp
    owner := { config, engineAddresses, clientAddresses } }

variable (hub : Hub)

/-- What the hub keeps. -/
def state : HubState := hub.rest.owner

/-- The settings. -/
def config : Config := hub.state.config

/-- The engines. -/
def registry : Registry := hub.state.registry

/-- The tasks. -/
def ledger : Ledger := hub.state.ledger

/-- The heart monitor. -/
def monitor : Monitor HeartDuty := hub.rest.monitor

/-- The present time. -/
def time : Timestamp := .ofInstant hub.now

/-- Change what the hub keeps. -/
def modifyState (change : HubState → HubState) : Hub := MonitorWorld.modifyOwner hub change

/-- Replace the registry. -/
def setRegistry (registry : Registry) : Hub :=
  hub.modifyState fun state => { state with registry }

/-- Replace the ledger. -/
def setLedger (ledger : Ledger) : Hub :=
  hub.modifyState fun state => { state with ledger }

/-- Change the metrics. -/
def modifyMetrics (change : HubMetrics → HubMetrics) : Hub :=
  hub.modifyState fun state => { state with metrics := change state.metrics }

/-- Put something into the outbox. -/
def send (item : Outgoing) : Hub :=
  hub.modifyState fun state => { state with outbox := state.outbox ++ [item] }

/-- Answer a query. -/
def respond (recipient : Frame) (kind : QueryKind) (answer : Answer)
    (trailing : List Frame) : Hub :=
  hub.send (.reply recipient kind (.ok answer) trailing)

/-- Tell the sender of a query of a fault. -/
def respondFault (recipient : Frame) (kind : QueryKind) (fault : Fault) : Hub :=
  hub.send (.reply recipient kind (.ofFault fault) [])

/-- Broadcast a notice. -/
def notify (notice : Notice) : Hub := hub.send (.notice notice)

/-- Cancel a timer, on whichever queue it is. -/
def disarm (handle : Option TimerHandle) : Hub :=
  match handle with
  | none => hub
  | some handle =>
      modifyState (hub.cancel handle) fun state =>
        { state with aside := state.aside.cancel handle }

/-- Schedule a duty. -/
def assignDuty (delay : Duration) (duty : Duty) : TimerHandle × Hub :=
  hub.schedule delay (.own duty)

/-- Bring the gauge of engines up to date. -/
def gaugeEngines : Hub :=
  hub.modifyMetrics fun m =>
    { m with registeredEngines := m.registeredEngines.set hub.registry.activeCount }

/-- Bring the gauge of pending tasks up to date. -/
def gaugeTasks : Hub :=
  hub.modifyMetrics fun m =>
    { m with pendingTasks := m.pendingTasks.set hub.ledger.pending.size }

/-- Count a registration that came to nothing. -/
def countRejection : Hub :=
  hub.modifyMetrics fun m =>
    { m with registrationsRejected := m.registrationsRejected.increment }

/-- All metrics, those of the heart monitor included. -/
def metrics : HubMetrics :=
  let m := hub.state.metrics
  { m with
    pongsReceived := m.pongsReceived.add (UInt64.ofNat hub.monitor.echoes)
    heartFailures := m.heartFailures.add (UInt64.ofNat hub.monitor.failed) }

end Hub

end ClusterHub
