import ClusterHub.Hub.Basic

/-!
# Joining and leaving

An engine that registers is pending until its heart is seen; then it becomes
active, everybody is told, and so is the one who asked.  If its heart is not
seen in time the registration is deleted and refused.  When the heart of an
active engine fails, everybody is told at once, but the engine's tasks are
given some time: results may still be on their way.  An engine that asks to
leave is forgotten at once.
-/

namespace ClusterHub.Hub

/-- Make the pending engine of a heart active. -/
def finishRegistration (hub : Hub) (heart : String) : Hub :=
  match hub.registry.promote heart with
  | none => hub
  | some (record, deletion, registry) =>
      let (requester, registry) := registry.takeRequester record.id
      let hub := (hub.setRegistry registry).disarm deletion
      let hub := hub.notify (.joined record.notice)
      let hub := match requester with
        | some identity => hub.respond identity .registration (.engine ⟨record.id⟩) []
        | none => hub
      hub.gaugeEngines

/-- Take in an engine's request to join. -/
def registerEngine (hub : Hub) (identity : Frame) (message : Message) : Except Fault Hub := do
  let registration ← message.payload Registration 2
  let (id, registry) ← hub.registry.insertPending registration (some identity) hub.time
  let hub := hub.setRegistry registry
  if hub.monitor.isAlive registration.heart then
    return hub.finishRegistration registration.heart
  else
    let (handle, hub) :=
      hub.assignDuty hub.config.registrationTimeout (.purgeStalled registration.heart)
    let (replaced, registry) := hub.registry.armDeletion id handle
    return (hub.setRegistry registry).disarm replaced

/-- The fault of a registration whose heart was not seen in time. -/
def stalledFault (heart : String) : Fault :=
  .registrationRejected s!"heart `{heart}' did not beat in time"

/-- Delete the registration of a heart that was not seen in time. -/
def purgeStalled (hub : Hub) (heart : String) : Hub :=
  match hub.registry.purgePending heart with
  | none => hub
  | some (record, deletion, registry) =>
      let hub := (hub.setRegistry registry).disarm deletion
      let hub := hub.countRejection
      match record.requester with
      | some identity => hub.respondFault identity .registration (stalledFault heart)
      | none => hub

/-- React to a new heart. -/
def welcomeHeart (hub : Hub) (heart : String) : Hub :=
  if (hub.registry.pendingForHeart heart).isSome then hub.finishRegistration heart else hub

/-- The active engine of a heart, unless it is given up already. -/
def engineToGiveUp (hub : Hub) (heart : String) : Option EngineRecord := do
  let id ← hub.registry.idByHeart heart
  let record ← hub.registry.engines[id]?
  if record.isActive && !hub.registry.isDead record.queue then return record else none

/-- React to a heart that failed. -/
def giveUpHeart (hub : Hub) (heart : String) : Hub :=
  match hub.engineToGiveUp heart with
  | none => hub
  | some record =>
      let hub := hub.setRegistry (hub.registry.markDead record.queue)
      let hub := hub.notify (.left record.notice)
      (hub.assignDuty hub.config.registrationTimeout
        (.sweepStranded record.id record.queue)).2

/-- Complete the tasks of an engine that died, and forget the engine. -/
def sweepStranded (hub : Hub) (engine : EngineId) (queue : String) : Hub :=
  let (ids, ledger) := hub.ledger.strandedSweep engine queue hub.time
  let hub := hub.setLedger ledger
  let hub := hub.modifyMetrics fun m =>
    { m with strandedTasks := m.strandedTasks.add (UInt64.ofNat ids.length) }
  let hub := match hub.registry.remove engine with
    | none => hub
    | some (_, deletion, registry) => (hub.setRegistry registry).disarm deletion
  hub.gaugeEngines.gaugeTasks

/-- Take in an engine's request to leave. -/
def unregisterEngine (hub : Hub) (identity : Frame) (message : Message) :
    Except Fault Hub := do
  let request ← message.payload Unregistration 2
  let record ← hub.registry.getByQueue request.queue
  if record.isActive then
    match hub.registry.remove record.id with
    | none => throw (.unknownEngine request.queue)
    | some (record, deletion, registry) =>
        let hub := (hub.setRegistry registry).disarm deletion
        let hub := hub.respond identity .unregistration (.engine ⟨record.id⟩) []
        let hub := hub.notify (.left record.notice)
        return hub.gaugeEngines
  else throw (.unknownEngine request.queue)

/-- React to the report of a heart. -/
def runHeartDuty : HeartDuty → String → Hub → Hub
  | .welcome, heart, hub => hub.welcomeHeart heart
  | .giveUp, heart, hub => hub.giveUpHeart heart

/-- One beat of the heart monitor. -/
def beat (hub : Hub) : Hub := MonitorWorld.beat runHeartDuty (.own .beat) hub

/-- Carry out a timer's duty. -/
def runDuty : Duty → Hub → Hub
  | .beat, hub => hub.beat
  | .purgeStalled heart, hub => hub.purgeStalled heart
  | .sweepStranded engine queue, hub => hub.sweepStranded engine queue
  | .stop, hub => hub.send .stop

end ClusterHub.Hub
