import ClusterHub.Hub.Traffic
import ClusterHub.Wire.Notation

/-!
# Snapshots

The state of a hub as a JSON document: its engines, its tasks oldest first, and
what is outstanding.
-/

namespace ClusterHub

/-- A task as snapshots show it. -/
def TaskRecord.toNotation (record : TaskRecord) : Json :=
  .ofMembers
    [("msg_id", .ofText record.id),
     ("client", .ofText record.client),
     ("lane", Payload.toJson record.lane),
     ("engine", .ofOption Json.ofUInt32 record.engine),
     ("engine_queue", .ofOption .ofText record.engineQueue),
     ("submitted", .ofTimestamp record.submitted),
     ("started", .ofTime? record.started),
     ("completed", .ofTime? record.completed),
     ("resubmitted", .ofTime? record.resubmitted),
     ("content", record.content.toNotation),
     ("result", record.result.toNotation),
     ("stranded", .bool record.stranded),
     ("outputs", .ofList (fun (stream, text) => .ofTexts [stream, text]) record.outputs)]

/-- An engine as snapshots show it, with further members. -/
def EngineRecord.toNotation (record : EngineRecord) (further : List (String × Json)) : Json :=
  .ofMembers
    ([("id", .ofUInt32 record.id),
      ("queue", .ofText record.queue),
      ("heartbeat", .ofText record.heart),
      ("registration", .ofText record.name),
      ("services", .ofTexts record.services),
      ("active", .bool record.isActive),
      ("pending", .bool !record.isActive),
      ("registered_at", .ofTimestamp record.registeredAt)] ++ further)

/-- How many outstanding tasks each engine has. -/
def Ledger.outstandingNotation (l : Ledger) : Json :=
  .ofMembers (l.enginesWithTasks.map fun (engine, count) => (engine.text, .ofNat count))

/-- A snapshot of a hub. -/
def Hub.snapshot (hub : Hub) : Json :=
  .ofMembers
    [("engines", .ofList (fun record => record.toNotation
        [("dead", .bool (hub.registry.isDead record.queue))]) hub.registry.records),
     ("tasks", .ofList TaskRecord.toNotation (hub.ledger.history.filterMap hub.ledger.get?)),
     ("unassigned", .ofTexts hub.ledger.unassigned.toList),
     ("outstanding", hub.ledger.outstandingNotation),
     ("ping", .ofText hub.monitor.currentPing)]

/-- The clock of a hub and its counts: active and pending engines, tasks and
how many of them are pending and completed, hearts that are alive, and
beats. -/
def Hub.vitals (hub : Hub) : List Int :=
  [hub.now, hub.registry.activeCount, hub.registry.pendingCount, hub.ledger.size,
   hub.ledger.pending.size, hub.ledger.completed.size, hub.monitor.liveness.alive.size,
   hub.monitor.beats]

end ClusterHub
