import ClusterHub.Proofs.Engine.Operation
import ClusterHub.Proofs.Fault
import ClusterHub.Proofs.Hub.Event

/-!
# The core of a hub

What a hub does next depends on its engines, its tasks, its timers and its
heart monitor; metrics and the outbox only record what it did.  For each
handler that concerns membership there is one equation that gives the hub
afterwards, and one that gives its core.
-/

namespace ClusterHub

/-- The part of a hub that its further course depends on. -/
structure Core where
  registry : Registry
  ledger : Ledger
  timers : Timers (Reactor.Alarm Duty)
  monitor : Monitor HeartDuty
  /-- The hearts that the present beat has still to welcome. -/
  arriving : List String := []
  /-- The hearts that the present beat has still to give up. -/
  failing : List String := []

namespace Core

/-- The hearts that are alive. -/
def alive (core : Core) : Std.ExtTreeSet String := core.monitor.liveness.alive

/-- A core with a timer more. -/
def schedule (core : Core) (deadline : Instant) (duty : Duty) : Core :=
  { core with timers := (core.timers.scheduleAt deadline (.own duty)).2 }

/-- A core with a timer cancelled. -/
def disarm (core : Core) (handle : Option TimerHandle) : Core :=
  { core with timers := core.timers.disarm handle }

end Core

namespace Hub

variable {hub : Hub}

/-- The core of a hub. -/
def core (hub : Hub) : Core where
  registry := hub.registry
  ledger := hub.ledger
  timers := hub.timers
  monitor := hub.monitor

theorem isAlive_eq_true_iff {heart : String} :
    hub.monitor.isAlive heart = true ↔ heart ∈ hub.core.alive :=
  Std.ExtTreeSet.contains_iff_mem

theorem isAlive_eq_false_iff {heart : String} :
    hub.monitor.isAlive heart = false ↔ heart ∉ hub.core.alive := by
  rw [← isAlive_eq_true_iff, Bool.not_eq_true]

@[simp]
theorem core_respond (recipient : Frame) (kind : QueryKind) (answer : Answer)
    (trailing : List Frame) : (hub.respond recipient kind answer trailing).core = hub.core := rfl

@[simp]
theorem core_respondFault (recipient : Frame) (kind : QueryKind) (fault : Fault) :
    (hub.respondFault recipient kind fault).core = hub.core := rfl

@[simp]
theorem core_notify (notice : Notice) : (hub.notify notice).core = hub.core := rfl

@[simp]
theorem core_gaugeEngines : hub.gaugeEngines.core = hub.core := rfl

@[simp]
theorem core_gaugeTasks : hub.gaugeTasks.core = hub.core := rfl

@[simp]
theorem core_countRejection : hub.countRejection.core = hub.core := rfl

@[simp]
theorem core_setRegistry (registry : Registry) :
    (hub.setRegistry registry).core = { hub.core with registry } := rfl

@[simp]
theorem core_disarm (handle : Option TimerHandle) :
    (hub.disarm handle).core = hub.core.disarm handle := by
  cases handle <;> rfl

/-! ## Joining and leaving -/

variable {id : EngineId} {record : EngineRecord} {heart : String}

/-- The pending engine of a heart becomes active, its timer is cancelled, and
everybody is told, last of all the one who asked. -/
theorem finishRegistration_of_pending (consistent : hub.registry.Consistent)
    (found : hub.registry.engines[id]? = some record) (pending : record.state = .pending) :
    hub.finishRegistration record.heart =
      let registry := hub.registry.replace record.activated
      let told := ((hub.setRegistry registry).disarm record.deletion).notify (.joined record.notice)
      (match record.requester with
        | some identity => told.respond identity .registration (.engine ⟨id⟩) []
        | none => told).gaugeEngines := by
  have numbered := consistent.identified found
  have promotion := Registry.promote_of_pending consistent found pending
  unfold finishRegistration
  rw [promotion]
  have stands : (hub.registry.replace
      { record with state := .active, deletion := none }).engines[record.id]? =
        some { record with state := .active, deletion := none } := by
    rw [Registry.getElem?_replace, if_pos rfl]
  have merged : (hub.registry.replace
      { record with state := .active, deletion := none }).replace record.activated =
        hub.registry.replace record.activated := Registry.replace_replace rfl
  simp only [EngineRecord.activated] at merged
  simp only [Registry.takeRequester_of_found stands rfl, merged, ← numbered]
  rfl

theorem core_finishRegistration (consistent : hub.registry.Consistent)
    (found : hub.registry.engines[id]? = some record) (pending : record.state = .pending) :
    (hub.finishRegistration record.heart).core =
      Core.disarm { hub.core with registry := hub.registry.replace record.activated }
        record.deletion := by
  rw [finishRegistration_of_pending consistent found pending]
  cases record.requester <;> simp

variable {identity : Frame} {message : Message} {registration : Registration}

theorem registerEngine_of_refused {fault : Fault}
    (read : message.payload Registration 2 = .ok registration)
    (refused : hub.registry.checkAvailable registration.heart registration.queue = .error fault) :
    hub.registerEngine identity message = .error fault := by
  simp only [registerEngine, read, bind, Except.bind, Registry.insertPending_of_refused refused]

/-- A registration succeeds if nobody has its identities. -/
theorem registerEngine_of_available (consistent : hub.registry.Consistent)
    (read : message.payload Registration 2 = .ok registration)
    (available : hub.registry.Available registration.heart registration.queue) :
    ∃ after, hub.registerEngine identity message = .ok after := by
  have admission : hub.registry.insertPending registration (some identity) hub.time = _ :=
    Registry.insertPending_of_available consistent available
  simp only [registerEngine, read, bind, Except.bind, admission]
  split <;> exact ⟨_, rfl⟩

/-- The record under which an engine that registers waits for its heart. -/
def awaiting (hub : Hub) (registration : Registration) (identity : Frame) : EngineRecord :=
  { hub.registry.applicant registration (some identity) hub.time with
    deletion := some ⟨hub.timers.issued + 1, hub.now + hub.config.registrationTimeout⟩ }

/-- An engine whose heart is not alive waits for it, and a timer is set. -/
theorem registerEngine_of_silent (consistent : hub.registry.Consistent)
    (read : message.payload Registration 2 = .ok registration)
    (available : hub.registry.Available registration.heart registration.queue)
    (silent : hub.monitor.isAlive registration.heart = false) :
    hub.registerEngine identity message = .ok
      ((hub.assignDuty hub.config.registrationTimeout
          (.purgeStalled registration.heart)).2.setRegistry
        (hub.registry.enroll (hub.awaiting registration identity))) := by
  have admission : hub.registry.insertPending registration (some identity) hub.time = _ :=
    Registry.insertPending_of_available consistent available
  let applicant := hub.registry.applicant registration (some identity) hub.time
  let handle : TimerHandle :=
    ⟨hub.timers.issued + 1, hub.now + hub.config.registrationTimeout⟩
  have stands : (hub.registry.enroll applicant).engines[hub.registry.nextId]? = some applicant := by
    rw [Registry.getElem?_enroll, if_pos rfl]
  have armed := Registry.armDeletion_of_found stands rfl handle
  have replaced : (hub.registry.enroll applicant).replace (hub.awaiting registration identity) =
      hub.registry.enroll (hub.awaiting registration identity) :=
    Registry.replace_enroll rfl rfl rfl
  have quiet : (hub.setRegistry (hub.registry.enroll applicant)).monitor.isAlive
      registration.heart = false := silent
  simp only [registerEngine, read, bind, Except.bind, admission]
  rw [if_neg (by simp [quiet, applicant])]
  -- Setting the timer and storing the record do not get in each other's way.
  change Except.ok (((hub.assignDuty hub.config.registrationTimeout
    (.purgeStalled registration.heart)).2.setRegistry
      ((hub.registry.enroll applicant).armDeletion hub.registry.nextId handle).2).disarm
        ((hub.registry.enroll applicant).armDeletion hub.registry.nextId handle).1) = _
  rw [armed, ← replaced]
  rfl

/-- An engine whose heart is alive is active at once. -/
theorem registerEngine_of_alive (consistent : hub.registry.Consistent)
    (room : hub.registry.nextId.toNat + 1 < UInt32.size)
    (read : message.payload Registration 2 = .ok registration)
    (available : hub.registry.Available registration.heart registration.queue)
    (alive : hub.monitor.isAlive registration.heart = true) :
    let applicant := hub.registry.applicant registration (some identity) hub.time
    hub.registerEngine identity message = .ok
      ((((hub.setRegistry (hub.registry.enroll applicant.activated)).notify
        (.joined applicant.notice)).respond identity .registration
          (.engine ⟨hub.registry.nextId⟩) []).gaugeEngines) := by
  intro applicant
  have admission : hub.registry.insertPending registration (some identity) hub.time = _ :=
    Registry.insertPending_of_available consistent available
  have stands : (hub.registry.enroll applicant).engines[hub.registry.nextId]? = some applicant := by
    rw [Registry.getElem?_enroll, if_pos rfl]
  have replaced : (hub.registry.enroll applicant).replace applicant.activated =
      hub.registry.enroll applicant.activated := Registry.replace_enroll rfl rfl rfl
  have beating : (hub.setRegistry (hub.registry.enroll applicant)).monitor.isAlive
      registration.heart = true := alive
  have finished : (hub.setRegistry (hub.registry.enroll applicant)).finishRegistration _ = _ :=
    finishRegistration_of_pending (consistent.enroll rfl available room) stands rfl
  simp only [registerEngine, read, bind, Except.bind, admission]
  rw [if_pos (by simp [beating, applicant])]
  apply (congrArg Except.ok finished).trans
  rw [← replaced]
  rfl

theorem purgeStalled_of_none (waiting : hub.registry.pendingForHeart heart = none) :
    hub.purgeStalled heart = hub := by
  simp [purgeStalled, Registry.purgePending_eq_none waiting]

/-- The pending engine of a heart is withdrawn, and the one who asked is told. -/
theorem purgeStalled_of_pending (consistent : hub.registry.Consistent)
    (found : hub.registry.engines[id]? = some record) (pending : record.state = .pending) :
    hub.purgeStalled record.heart =
      let hub := ((hub.setRegistry (hub.registry.withdraw record)).disarm
        record.deletion).countRejection
      match record.requester with
      | some identity => hub.respondFault identity .registration (stalledFault record.heart)
      | none => hub := by
  have purged := Registry.purgePending_of_pending consistent found pending
  cases asked : record.requester with
  | none => simp only [purgeStalled, purged, asked]
  | some identity => simp only [purgeStalled, purged, asked]

theorem core_purgeStalled (consistent : hub.registry.Consistent)
    (found : hub.registry.engines[id]? = some record) (pending : record.state = .pending) :
    (hub.purgeStalled record.heart).core =
      Core.disarm { hub.core with registry := hub.registry.withdraw record }
        record.deletion := by
  rw [purgeStalled_of_pending consistent found pending]
  cases record.requester <;> simp

/-- An engine that asks to leave is withdrawn. -/
theorem unregisterEngine_eq_ok {after : Hub} (consistent : hub.registry.Consistent)
    (left : hub.unregisterEngine identity message = .ok after) :
    ∃ id record, hub.registry.engines[id]? = some record ∧ record.state = .active ∧
      after = ((((hub.setRegistry (hub.registry.withdraw record)).disarm record.deletion).respond
        identity .unregistration (.engine ⟨id⟩) []).notify (.left record.notice)).gaugeEngines := by
  unfold unregisterEngine at left
  rcases Fault.bind_eq_ok_iff.mp left with ⟨request, _, left⟩
  rcases Fault.bind_eq_ok_iff.mp left with ⟨record, got, left⟩
  have found := ((Registry.getByQueue_eq_ok_iff consistent).mp got).1
  split at left
  · next active =>
      rw [Registry.remove_of_found found rfl] at left
      refine ⟨record.id, record, found, by simpa [EngineRecord.isActive] using active, ?_⟩
      exact (Except.ok.inj left).symm
  · contradiction

theorem registry_modifyMetrics (change : HubMetrics → HubMetrics) :
    (hub.modifyMetrics change).registry = hub.registry := rfl

theorem registry_setLedger (ledger : Ledger) : (hub.setLedger ledger).registry = hub.registry := rfl

/-- The hub whose ledger was swept, before the engine is forgotten. -/
def swept (hub : Hub) (engine : EngineId) (queue : String) : Hub :=
  let (ids, ledger) := hub.ledger.strandedSweep engine queue hub.time
  (hub.setLedger ledger).modifyMetrics fun m =>
    { m with strandedTasks := m.strandedTasks.add (UInt64.ofNat ids.length) }

@[simp]
theorem core_swept (engine : EngineId) (queue : String) :
    (hub.swept engine queue).core = { hub.core with
      ledger := (hub.ledger.strandedSweep engine queue hub.time).2 } := rfl

/-- An engine whose time of grace is over is withdrawn if it is still there. -/
theorem sweepStranded_of_found {queue : String} (consistent : hub.registry.Consistent)
    (found : hub.registry.engines[id]? = some record) :
    hub.sweepStranded id queue =
      (((hub.swept id queue).setRegistry (hub.registry.withdraw record)).disarm
        record.deletion).gaugeEngines.gaugeTasks := by
  have removed := Registry.remove_of_found found (consistent.identified found)
  simp only [sweepStranded, registry_modifyMetrics, registry_setLedger, removed]
  rfl

theorem sweepStranded_of_absent {queue : String} (absent : hub.registry.engines[id]? = none) :
    hub.sweepStranded id queue = (hub.swept id queue).gaugeEngines.gaugeTasks := by
  have removed := Registry.remove_eq_none absent
  simp only [sweepStranded, registry_modifyMetrics, registry_setLedger, removed]
  rfl

/-- The engine that is given up with a heart is active, and was not given up
before. -/
theorem engineToGiveUp_eq_some_iff (consistent : hub.registry.Consistent) :
    hub.engineToGiveUp heart = some record ↔
      hub.registry.engines[record.id]? = some record ∧ record.heart = heart ∧
        record.state = .active ∧ record.queue ∉ hub.registry.dead := by
  simp only [engineToGiveUp, Registry.idByHeart, Option.bind_eq_bind, Option.bind_eq_some_iff]
  constructor
  · rintro ⟨id, indexed, other, found, chosen⟩
    split at chosen
    · next both =>
        cases chosen
        have named := (consistent.byHeart heart id).mp indexed
        rw [found] at named
        have numbered := consistent.identified found
        rw [← numbered] at found
        rcases Bool.and_eq_true_iff.mp both with ⟨active, spared⟩
        refine ⟨found, Option.some.inj named, by simpa [EngineRecord.isActive] using active, ?_⟩
        intro dead
        simp [Registry.isDead, Std.ExtTreeSet.contains_iff_mem.mpr dead] at spared
    · contradiction
  · rintro ⟨found, rfl, active, spared⟩
    have indexed := (consistent.byHeart record.heart record.id).mpr (by simp [found])
    refine ⟨record.id, indexed, record, found, ?_⟩
    simp [EngineRecord.isActive, active, Registry.isDead, spared]

theorem core_giveUpHeart_of_some (chosen : hub.engineToGiveUp heart = some record) :
    (hub.giveUpHeart heart).core =
      Core.schedule { hub.core with registry := hub.registry.markDead record.queue }
        (hub.now + hub.config.registrationTimeout) (.sweepStranded record.id record.queue) := by
  simp only [giveUpHeart, chosen]
  rfl

theorem giveUpHeart_of_none (chosen : hub.engineToGiveUp heart = none) :
    hub.giveUpHeart heart = hub := by
  simp only [giveUpHeart, chosen]

end Hub

end ClusterHub
