import ClusterHub.Hub.Query

/-!
# Task traffic

What the task queues report goes into the ledger.  Engines are named by their
queues and recorded by their numbers.  Messages that cannot be read are
dropped, and so is the destination of a task if nobody has that queue.
-/

namespace ClusterHub.Hub

/-- The frame at an index, or an empty one. -/
def bodyAt (message : Message) (index : Nat) : Frame :=
  (message.frames[index]?).getD .empty

/-- Take in a task that was submitted. -/
def saveRequest (hub : Hub) (lane : Lane) (message : Message) : Except Fault Hub := do
  let header ← message.payload RequestHeader 1
  let engine := header.engine.bind hub.registry.idByQueue
  let (_, ledger) := hub.ledger.saveRequest header lane engine (bodyAt message 2) hub.time
  return hub.setLedger ledger

/-- Take in the result of a task. -/
def saveResult (hub : Hub) (message : Message) : Except Fault Hub := do
  let header ← message.payload ResultHeader 1
  let engine := header.engine.bind hub.registry.idByQueue
  let (_, ledger) := hub.ledger.saveResult header engine (bodyAt message 2) hub.time
  return hub.setLedger ledger

/-- Take in the engine that was chosen for a task. -/
def saveDestination (hub : Hub) (message : Message) : Except Fault Hub := do
  let destination ← message.payload Destination 1
  match hub.registry.idByQueue destination.engine with
  | none => throw (.unknownEngine destination.engine)
  | some engine =>
      let (_, ledger) := hub.ledger.saveDestination destination.id engine destination.engine
      return hub.setLedger ledger

/-- Take in the output of a task. -/
def saveOutput (hub : Hub) (message : Message) : Except Fault Hub := do
  let header ← message.payload OutputHeader 1
  let (_, ledger) := hub.ledger.appendOutput header.id header.stream header.text
  return hub.setLedger ledger

/-- Take in a report of a given kind. -/
def takeIn (hub : Hub) (message : Message) : TrafficKind → Except Fault Hub
  | .queueRequest => hub.saveRequest .immediate message
  | .queueResult => hub.saveResult message
  | .taskRequest => hub.saveRequest .scheduled message
  | .taskResult => hub.saveResult message
  | .taskDestination => hub.saveDestination message
  | .controlRequest => .ok hub
  | .controlReply => .ok hub
  | .output => hub.saveOutput message

/-- Count a report. -/
def countTraffic (hub : Hub) (kind : TrafficKind) : Hub :=
  hub.modifyMetrics fun m => { m with monitorMessages := m.monitorMessages.increment kind.tag }

/-- Handle a message from the monitor socket. -/
def dispatchTraffic (hub : Hub) (message : Message) : Hub :=
  match (message.text 0).bind TrafficKind.ofTag with
  | .error _ => hub
  | .ok kind =>
      let hub := hub.countTraffic kind
      let hub := match hub.takeIn message kind with
        | .ok hub => hub
        | .error _ => hub
      hub.gaugeTasks

/-- Handle a message from the pong socket. -/
def dispatchPong (hub : Hub) (message : Message) : Hub :=
  MonitorWorld.modifyMonitor hub fun m => m.handlePong message

end ClusterHub.Hub
