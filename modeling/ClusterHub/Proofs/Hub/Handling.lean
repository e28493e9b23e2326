import ClusterHub.Proofs.Hub.Passage

/-!
# Messages that are handled

Most queries are answered from what there is, or note something about tasks.
Engines join and leave by registrations and unregistrations, and a shutdown is
scheduled.  Reports about tasks bind them to engines that are there.
-/

namespace ClusterHub

/-- Whether a query is answered from what there is. -/
def QueryKind.isReading : QueryKind → Bool
  | .queueStatus | .results | .history | .db | .load | .connection => true
  | .purge | .resubmit | .shutdown | .registration | .unregistration => false

namespace Hub

variable {hub after : Hub} {identity : Frame} {message : Message}

theorem nextId_finishRegistration (hub : Hub) (heart : String) :
    (hub.finishRegistration heart).core.registry.nextId = hub.registry.nextId := by
  unfold finishRegistration
  cases promoted : hub.registry.promote heart with
  | none => rfl
  | some promotion =>
      rcases promotion with ⟨record, deletion, registry⟩
      have same : registry.nextId = hub.registry.nextId := by
        simp only [Registry.promote, Option.bind_eq_bind, Option.bind_eq_some_iff] at promoted
        rcases promoted with ⟨id, _, found, _, promoted⟩
        cases promoted
        rfl
      simp only [core_gaugeEngines]
      split <;> simp only [core_respond, core_notify, core_disarm, core_setRegistry] <;> exact same

/-- A registration that succeeds is given the next number. -/
theorem nextId_registerEngine (done : hub.registerEngine identity message = .ok after) :
    after.core.registry.nextId = hub.registry.nextId + 1 := by
  unfold registerEngine at done
  rcases Fault.bind_eq_ok_iff.mp done with ⟨registration, _, done⟩
  rcases Fault.bind_eq_ok_iff.mp done with ⟨⟨id, registry⟩, inserted, done⟩
  have next : registry.nextId = hub.registry.nextId + 1 := by
    unfold Registry.insertPending at inserted
    rcases Fault.bind_eq_ok_iff.mp inserted with ⟨_, _, inserted⟩
    cases inserted
    rfl
  simp only at done
  split at done
  · cases done
    rw [nextId_finishRegistration]
    exact next
  · cases done
    rw [core_disarm]
    exact next

theorem answerQuery_of_reading {kind : QueryKind} (reading : kind.isReading)
    (done : hub.answerQuery identity message kind = .ok after) :
    ∃ answer trailing, after = hub.respond identity kind answer trailing := by
  cases kind with
  | queueStatus =>
      rcases Fault.bind_eq_ok_iff.mp done with ⟨query, _, done⟩
      rcases Fault.bind_eq_ok_iff.mp done with ⟨engines, _, done⟩
      exact ⟨_, _, (Except.ok.inj done).symm⟩
  | results =>
      rcases Fault.bind_eq_ok_iff.mp done with ⟨query, _, done⟩
      rcases Fault.bind_eq_ok_iff.mp done with ⟨results, _, done⟩
      exact ⟨_, _, (Except.ok.inj done).symm⟩
  | history => exact ⟨_, _, (Except.ok.inj done).symm⟩
  | db =>
      rcases Fault.bind_eq_ok_iff.mp done with ⟨filter, _, done⟩
      exact ⟨_, _, (Except.ok.inj done).symm⟩
  | load =>
      rcases Fault.bind_eq_ok_iff.mp done with ⟨query, _, done⟩
      rcases Fault.bind_eq_ok_iff.mp done with ⟨engines, _, done⟩
      exact ⟨_, _, (Except.ok.inj done).symm⟩
  | connection => exact ⟨_, _, (Except.ok.inj done).symm⟩
  | purge => contradiction
  | resubmit => contradiction
  | shutdown => contradiction
  | registration => contradiction
  | unregistration => contradiction

/-- A purge only forgets tasks. -/
theorem purgeResults_eq_ok (done : hub.purgeResults identity message = .ok after) :
    ∃ operations, (∀ operation ∈ operations, operation.isQuiet) ∧
      after.core = { hub.core with ledger := hub.ledger.performAll operations } := by
  unfold purgeResults at done
  rcases Fault.bind_eq_ok_iff.mp done with ⟨order, _, done⟩
  simp only at done
  split at done
  · cases done
    exact ⟨[.purgeAll], by simp [Ledger.Operation.isQuiet], rfl⟩
  · rcases Fault.bind_eq_ok_iff.mp done with ⟨⟨listed, ledger⟩, purged, done⟩
    cases done
    refine ⟨[.purge order.tasks, .purgeEngines order.engines],
      by simp [Ledger.Operation.isQuiet], ?_⟩
    have forgotten : hub.ledger.perform (.purge order.tasks) = ledger := by
      simp only [Ledger.perform, purged]
    simp only [Ledger.performAll, List.foldl_cons, forgotten]
    rfl

theorem core_resubmitAll (tasks : List (String × Frame)) :
    (tasks.foldl resubmitTask hub).core = { hub.core with
      ledger := hub.ledger.performAll (tasks.map fun task => .resubmission task.1 hub.time) } := by
  induction tasks generalizing hub with
  | nil => rfl
  | cons task tasks inductionHypothesis => exact inductionHypothesis

/-- Submitting tasks again is noted. -/
theorem resubmit_eq_ok (done : hub.resubmit identity message = .ok after) :
    ∃ operations, (∀ operation ∈ operations, operation.isQuiet) ∧
      after.core = { hub.core with ledger := hub.ledger.performAll operations } := by
  rcases Fault.bind_eq_ok_iff.mp done with ⟨order, _, done⟩
  rcases Fault.bind_eq_ok_iff.mp done with ⟨tasks, _, done⟩
  cases done
  let operations : List Ledger.Operation :=
    tasks.map fun task => .resubmission task.1 hub.time
  refine ⟨operations, ?_, ?_⟩
  · intro operation member
    rcases List.mem_map.mp member with ⟨task, _, rfl⟩
    rfl
  · rw [core_respond]
    exact core_resubmitAll tasks

/-! ## All queries -/

/-- Operations that bind no task are always in order. -/
theorem noted_of_isQuiet {operations : List Ledger.Operation}
    (quiet : ∀ operation ∈ operations, operation.isQuiet)
    (same : after.core = { hub.core with ledger := hub.ledger.performAll operations }) :
    hub.core.Noted after.core := by
  refine ⟨operations, ?_, same⟩
  intro operation member engine bound
  rw [Ledger.Operation.binding_of_isQuiet (quiet operation member)] at bound
  contradiction

theorem noted_of_same (same : after.core = hub.core) : hub.core.Noted after.core := by
  have nothing : ∀ operation ∈ ([] : List Ledger.Operation), operation.isQuiet := by
    intro operation member
    contradiction
  exact noted_of_isQuiet nothing same

theorem handled_registerEngine (consistent : hub.registry.Consistent)
    (room : hub.registry.nextId.toNat + 1 < UInt32.size)
    (done : hub.registerEngine identity message = .ok after) : hub.core.Handled after.core := by
  have steps := done
  unfold registerEngine at steps
  rcases Fault.bind_eq_ok_iff.mp steps with ⟨registration, read, _⟩
  by_cases available : hub.registry.Available registration.heart registration.queue
  · cases alive : hub.monitor.isAlive registration.heart with
    | true =>
        rw [registerEngine_of_alive consistent room read available alive] at done
        cases done
        exact .joined _ rfl available room rfl rfl rfl (isAlive_eq_true_iff.mp alive)
    | false =>
        rw [registerEngine_of_silent consistent read available alive] at done
        cases done
        exact .waiting _ _ rfl available room rfl rfl rfl (isAlive_eq_false_iff.mp alive)
  · rcases Registry.checkAvailable_of_not_available consistent available with ⟨fault, refused, _⟩
    rw [registerEngine_of_refused read refused] at done
    contradiction

theorem handled_unregisterEngine (consistent : hub.registry.Consistent)
    (done : hub.unregisterEngine identity message = .ok after) :
    hub.core.Handled after.core := by
  rcases unregisterEngine_eq_ok consistent done with ⟨id, record, found, active, rfl⟩
  simp only [core_gaugeEngines, core_notify, core_respond, core_disarm, core_setRegistry]
  exact .left id record found active

theorem handled_answerQuery {kind : QueryKind} (consistent : hub.registry.Consistent)
    (room : after.registry.nextId ≠ hub.registry.nextId →
      hub.registry.nextId.toNat + 1 < UInt32.size)
    (done : hub.answerQuery identity message kind = .ok after) :
    hub.core.Handled after.core := by
  cases reading : kind.isReading with
  | true =>
      rcases answerQuery_of_reading reading done with ⟨answer, trailing, rfl⟩
      exact .noted _ (noted_of_same (core_respond ..))
  | false =>
      cases kind with
      | purge =>
          rcases purgeResults_eq_ok done with ⟨operations, quiet, same⟩
          exact .noted _ (noted_of_isQuiet quiet same)
      | resubmit =>
          rcases resubmit_eq_ok done with ⟨operations, quiet, same⟩
          exact .noted _ (noted_of_isQuiet quiet same)
      | shutdown =>
          cases done
          exact .stopping _
      | registration =>
          have next : after.registry.nextId = hub.registry.nextId + 1 := nextId_registerEngine done
          refine handled_registerEngine consistent (room ?_) done
          rw [next]
          exact EngineId.succ_ne_self _
      | unregistration => exact handled_unregisterEngine consistent done
      | _ => contradiction

/-- No number is given out unless an engine registers. -/
theorem nextId_answerQuery {kind : QueryKind} (consistent : hub.registry.Consistent)
    (other : kind ≠ .registration) (done : hub.answerQuery identity message kind = .ok after) :
    after.registry.nextId = hub.registry.nextId := by
  cases reading : kind.isReading with
  | true =>
      rcases answerQuery_of_reading reading done with ⟨answer, trailing, rfl⟩
      rfl
  | false =>
      cases kind with
      | purge =>
          rcases purgeResults_eq_ok done with ⟨operations, _, same⟩
          exact congrArg (fun core => core.registry.nextId) same
      | resubmit =>
          rcases resubmit_eq_ok done with ⟨operations, _, same⟩
          exact congrArg (fun core => core.registry.nextId) same
      | shutdown =>
          cases done
          rfl
      | unregistration =>
          rcases unregisterEngine_eq_ok consistent done with ⟨id, record, _, _, rfl⟩
          have same : ((hub.setRegistry (hub.registry.withdraw record)).disarm
              record.deletion).core = _ := core_disarm record.deletion
          exact congrArg (fun core => core.registry.nextId) same
      | registration => exact absurd rfl other
      | _ => contradiction

theorem core_refuse (hub : Hub) (identity : Frame) (kind : QueryKind) (fault : Fault) :
    (hub.refuse identity kind fault).core = hub.core := by
  unfold refuse
  split
  · rw [core_respondFault]
    split <;> rfl
  · rfl

theorem handled_dispatchQuery (consistent : hub.registry.Consistent)
    (room : hub.admits (.query message) → hub.registry.nextId.toNat + 1 < UInt32.size) :
    hub.core.Handled (hub.dispatchQuery message).core := by
  have admission : (hub.dispatchQuery message).registry.nextId ≠ hub.registry.nextId →
      hub.registry.nextId.toNat + 1 < UInt32.size := by
    intro different
    exact room (decide_eq_true different)
  unfold dispatchQuery at admission ⊢
  split at admission
  · next identity kind _ _ =>
      simp only at admission ⊢
      cases done : (hub.countQuery kind).answerQuery identity message kind with
      | ok after =>
          rw [done] at admission
          have handled : (hub.countQuery kind).core.Handled after.core :=
            handled_answerQuery consistent admission done
          exact handled
      | error fault => exact .noted _ (noted_of_same (core_refuse ..))
  · exact .noted _ (noted_of_same rfl)

theorem nextId_dispatchQuery (consistent : hub.registry.Consistent) (message : Message) :
    (hub.dispatchQuery message).registry.nextId = hub.registry.nextId ∨
      (hub.dispatchQuery message).registry.nextId = hub.registry.nextId + 1 := by
  unfold dispatchQuery
  split
  · next identity kind _ _ =>
      cases done : (hub.countQuery kind).answerQuery identity message kind with
      | ok after =>
          simp only [done]
          by_cases registering : kind = .registration
          · subst registering
            have registered : (hub.countQuery .registration).registerEngine identity message =
                .ok after := done
            have next := nextId_registerEngine registered
            exact Or.inr next
          · have same : after.registry.nextId = (hub.countQuery kind).registry.nextId :=
              nextId_answerQuery consistent registering done
            exact Or.inl same
      | error fault =>
          simp only [done]
          have same := core_refuse (hub.countQuery kind) identity kind fault
          exact Or.inl (congrArg (fun core => core.registry.nextId) same)
  · exact Or.inl rfl

/-- An engine that is looked up by its queue is there. -/
theorem exists_queue_of_bind {name : Option String} {engine : EngineId}
    (bound : engine ∈ name.bind hub.registry.idByQueue) :
    ∃ queue : String, hub.registry.byQueue[queue]? = some engine := by
  rcases Option.bind_eq_some_iff.mp (Option.mem_def.mp bound) with ⟨queue, _, found⟩
  exact ⟨queue, found⟩

theorem saveRequest_eq_ok {lane : Lane} (done : hub.saveRequest lane message = .ok after) :
    ∃ header, after = hub.setLedger (hub.ledger.perform (.request header lane
      (header.engine.bind hub.registry.idByQueue) (bodyAt message 2) hub.time)) := by
  rcases Fault.bind_eq_ok_iff.mp done with ⟨header, _, done⟩
  exact ⟨header, (Except.ok.inj done).symm⟩

theorem saveResult_eq_ok (done : hub.saveResult message = .ok after) :
    ∃ header, after = hub.setLedger (hub.ledger.perform (.result header
      (header.engine.bind hub.registry.idByQueue) (bodyAt message 2) hub.time)) := by
  rcases Fault.bind_eq_ok_iff.mp done with ⟨header, _, done⟩
  exact ⟨header, (Except.ok.inj done).symm⟩

theorem saveDestination_eq_ok (done : hub.saveDestination message = .ok after) :
    ∃ id engine queue, hub.registry.byQueue[queue]? = some engine ∧
      after = hub.setLedger (hub.ledger.perform (.destination id engine queue)) := by
  rcases Fault.bind_eq_ok_iff.mp done with ⟨destination, _, done⟩
  cases found : hub.registry.idByQueue destination.engine with
  | none =>
      rw [found] at done
      contradiction
  | some engine =>
      rw [found] at done
      exact ⟨destination.id, engine, destination.engine, found, (Except.ok.inj done).symm⟩

theorem saveOutput_eq_ok (done : hub.saveOutput message = .ok after) :
    ∃ id stream text, after = hub.setLedger (hub.ledger.perform (.output id stream text)) := by
  rcases Fault.bind_eq_ok_iff.mp done with ⟨header, _, done⟩
  exact ⟨header.id, header.stream, header.text, (Except.ok.inj done).symm⟩

/-- An operation that is in order is noted. -/
theorem noted_of_known {operation : Ledger.Operation} (known : hub.core.Knows operation) :
    hub.core.Noted (hub.setLedger (hub.ledger.perform operation)).core := by
  refine ⟨[operation], ?_, rfl⟩
  intro other member
  rw [List.mem_singleton.mp member]
  exact known

theorem noted_takeIn {kind : TrafficKind} (done : hub.takeIn message kind = .ok after) :
    hub.core.Noted after.core := by
  have requested : ∀ lane, hub.saveRequest lane message = .ok after →
      hub.core.Noted after.core := by
    intro lane done
    rcases saveRequest_eq_ok done with ⟨header, rfl⟩
    exact noted_of_known fun _ bound => exists_queue_of_bind bound
  have answered : hub.saveResult message = .ok after → hub.core.Noted after.core := by
    intro done
    rcases saveResult_eq_ok done with ⟨header, rfl⟩
    exact noted_of_known fun _ bound => exists_queue_of_bind bound
  cases kind with
  | queueRequest => exact requested .immediate done
  | queueResult => exact answered done
  | taskRequest => exact requested .scheduled done
  | taskResult => exact answered done
  | taskDestination =>
      rcases saveDestination_eq_ok done with ⟨id, engine, queue, found, rfl⟩
      apply noted_of_known
      intro other bound
      cases bound
      exact ⟨queue, found⟩
  | controlRequest =>
      cases done
      exact noted_of_same rfl
  | controlReply =>
      cases done
      exact noted_of_same rfl
  | output =>
      rcases saveOutput_eq_ok done with ⟨id, stream, text, rfl⟩
      exact noted_of_known nofun

theorem noted_dispatchTraffic (hub : Hub) (message : Message) :
    hub.core.Noted (hub.dispatchTraffic message).core := by
  unfold dispatchTraffic
  cases (message.text 0).bind TrafficKind.ofTag with
  | error fault => exact noted_of_same rfl
  | ok kind =>
      simp only [core_gaugeTasks]
      cases done : (hub.countTraffic kind).takeIn message kind with
      | ok after =>
          have noted : (hub.countTraffic kind).core.Noted after.core := noted_takeIn done
          exact noted
      | error fault => exact noted_of_same rfl

end Hub

end ClusterHub
