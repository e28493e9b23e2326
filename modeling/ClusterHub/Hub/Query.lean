import ClusterHub.Hub.Membership

/-!
# Answering queries

A query is its sender's identity, a tag and a payload.  One that cannot be read
is dropped; one that asks for something impossible is answered with its fault
and changes nothing.
-/

namespace ClusterHub.Hub

/-- The engines that are asked about: those that are named, all of which must
be active, or all whose hearts have not failed. -/
def resolveTargets (hub : Hub) : Option (List EngineId) → Except Fault (List EngineId)
  | some ids => ids.mapM fun id => (hub.registry.requireActive id).map EngineRecord.id
  | none => .ok (hub.registry.live.map EngineRecord.id)

/-- Tell the load of engines. -/
def checkLoad (hub : Hub) (identity : Frame) (message : Message) : Except Fault Hub := do
  let query ← message.payload LoadQuery 2
  let engines ← hub.resolveTargets query.targets
  let report := Json.mapOfPairs (engines.map fun engine =>
    (engine, (hub.ledger.load engine).toPayload))
  return hub.respond identity .load (.load report) []

/-- Tell the queues of engines. -/
def queueStatus (hub : Hub) (identity : Frame) (message : Message) : Except Fault Hub := do
  let query ← message.payload QueueQuery 2
  let engines ← hub.resolveTargets query.targets
  let report : QueueReport := {
    engines := Json.mapOfPairs (engines.map fun engine =>
      (engine, (hub.ledger.queueState engine).toPayload query.verbose))
    unassigned := hub.ledger.unassigned.toList }
  return hub.respond identity .queueStatus (.queues report) []

/-- Forget completed tasks. -/
def purgeResults (hub : Hub) (identity : Frame) (message : Message) : Except Fault Hub := do
  let order ← message.payload PurgeOrder 2
  let (purged, ledger) ←
    if order.all then pure hub.ledger.purgeAll
    else do
      let (listed, ledger) ← hub.ledger.purge order.tasks
      let (ofEngines, ledger) := ledger.purgeEngines order.engines
      pure (listed + ofEngines, ledger)
  let hub := (hub.setLedger ledger).gaugeTasks
  return hub.respond identity .purge (.purged ⟨UInt64.ofNat purged⟩) []

/-- Tell the state and the results of tasks. -/
def getResults (hub : Hub) (identity : Frame) (message : Message) : Except Fault Hub := do
  let query ← message.payload ResultQuery 2
  let results ← hub.ledger.results query.tasks query.statusOnly
  return hub.respond identity .results
    (.results results.toPayload) results.frames

/-- Tell the identities of all tasks. -/
def getHistory (hub : Hub) (identity : Frame) : Hub :=
  hub.respond identity .history (.history ⟨hub.ledger.history⟩) []

/-- Tell the tasks that pass a filter. -/
def listTasks (hub : Hub) (identity : Frame) (message : Message) : Except Fault Hub := do
  let filter ← message.payload TaskFilter 2
  return hub.respond identity .db (.tasks ⟨hub.ledger.query filter⟩) []

/-- Send a task again. -/
def resubmitTask (hub : Hub) (task : String × Frame) : Hub :=
  let hub := hub.send (.resubmission task.1 task.2)
  hub.setLedger (hub.ledger.markResubmitted task.1 hub.time)

/-- Send completed tasks again. -/
def resubmit (hub : Hub) (identity : Frame) (message : Message) : Except Fault Hub := do
  let order ← message.payload ResubmitOrder 2
  let tasks ← hub.ledger.resubmittable order.tasks
  let hub := tasks.foldl resubmitTask hub
  return hub.respond identity .resubmit (.resubmitted ⟨tasks.map Prod.fst⟩) []

/-- Announce the end, and stop after some time. -/
def shutdownRequest (hub : Hub) (identity : Frame) : Hub :=
  let delay := hub.config.shutdownDelay
  let hub := hub.respond identity .shutdown
    (.stopping ⟨UInt64.ofNat (Duration.toMillis delay)⟩) []
  let hub := hub.notify .stopping
  (hub.assignDuty delay .stop).2

/-- Tell where everything is. -/
def connectionRequest (hub : Hub) (identity : Frame) : Hub :=
  let engines := Json.mapOfPairs (hub.registry.live.map fun record => (record.id, record.queue))
  hub.respond identity .connection (.directory ⟨hub.state.clientAddresses, engines⟩) []

/-- Answer a query of a given kind. -/
def answerQuery (hub : Hub) (identity : Frame) (message : Message) :
    QueryKind → Except Fault Hub
  | .queueStatus => hub.queueStatus identity message
  | .results => hub.getResults identity message
  | .history => .ok (hub.getHistory identity)
  | .db => hub.listTasks identity message
  | .purge => hub.purgeResults identity message
  | .load => hub.checkLoad identity message
  | .resubmit => hub.resubmit identity message
  | .shutdown => .ok (hub.shutdownRequest identity)
  | .registration => hub.registerEngine identity message
  | .unregistration => hub.unregisterEngine identity message
  | .connection => .ok (hub.connectionRequest identity)

/-- Deal with a query that came to nothing.  A registration that was refused is
counted. -/
def refuse (hub : Hub) (identity : Frame) (kind : QueryKind) (fault : Fault) : Hub :=
  if fault.isCallersOwn then
    let hub := if kind = .registration then hub.countRejection else hub
    hub.respondFault identity kind fault
  else hub

/-- Count a query.  Queries are answered in no time. -/
def countQuery (hub : Hub) (kind : QueryKind) : Hub :=
  hub.modifyMetrics fun m =>
    { m with queries := m.queries.increment kind.tag, queryDuration := m.queryDuration.time 0 }

/-- Handle a message from the query socket. -/
def dispatchQuery (hub : Hub) (message : Message) : Hub :=
  match message.frame 0, (message.text 1).bind QueryKind.ofTag with
  | .ok identity, .ok kind =>
      let hub := hub.countQuery kind
      match hub.answerQuery identity message kind with
      | .ok hub => hub
      | .error fault => hub.refuse identity kind fault
  | _, _ => hub

/-- Let the two queues of timers change places.  The queue that is used next
gives out tickets that neither has given out before, so that a timer can be
cancelled on both. -/
def exchangeTimers (hub : Hub) : Hub :=
  let aside := hub.state.aside
  let issued := max aside.issued hub.timers.issued
  let hub' := hub.modifyState fun state => { state with aside := hub.timers }
  { hub' with timers := { aside with issued } }

/-- Run something with the timers set aside. -/
def withTimersAside {β : Type} (run : Hub → β × Hub) (hub : Hub) : β × Hub :=
  let (result, hub) := run hub.exchangeTimers
  (result, hub.exchangeTimers)

/-- Carry out what a timer of either queue does. -/
def runAlarm : Reactor.Alarm Duty → Hub → Hub
  | .deadline, hub => hub.send .stop
  | .own duty, hub => runDuty duty hub

/-- Handle a query whose timers are set aside. -/
def dispatchAside (hub : Hub) (message : Message) : Hub :=
  (withTimersAside (fun hub => ((), hub.dispatchQuery message)) hub).2

/-- Run the timers that are set aside and due, and count them. -/
def fireAside (hub : Hub) : Nat × Hub :=
  withTimersAside (fun hub => hub.fireDue runAlarm) hub

end ClusterHub.Hub
