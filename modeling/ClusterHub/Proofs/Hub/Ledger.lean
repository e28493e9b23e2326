import ClusterHub.Proofs.Hub.Beating
import ClusterHub.Proofs.Hub.Interleaving

/-!
# What a hub asks of its ledger

Reports about tasks ask what they report, the timer of an engine that is given up asks for
a sweep, and queries ask at most that tasks be noted as submitted again or be forgotten.
Nothing else that happens to a hub concerns its ledger, whoever may be registered.
-/

namespace ClusterHub.Hub

variable {hub after : Hub} {event : Event} {identity : Frame} {message : Message}
  {kind : QueryKind}

theorem ledger_disarm (hub : Hub) (handle : Option TimerHandle) :
    (hub.disarm handle).ledger = hub.ledger := by
  cases handle <;> rfl

theorem ledger_finishRegistration (hub : Hub) (heart : String) :
    (hub.finishRegistration heart).ledger = hub.ledger := by
  unfold finishRegistration
  split
  · rfl
  · next record deletion registry _ =>
      generalize registry.takeRequester record.id = taken
      rcases taken with ⟨requester, registry⟩
      have disarmed := ledger_disarm (hub.setRegistry registry) deletion
      cases requester <;> exact disarmed

theorem ledger_registerEngine (done : hub.registerEngine identity message = .ok after) :
    after.ledger = hub.ledger := by
  unfold registerEngine at done
  rcases Fault.bind_eq_ok_iff.mp done with ⟨registration, _, done⟩
  rcases Fault.bind_eq_ok_iff.mp done with ⟨⟨id, registry⟩, _, done⟩
  simp only at done
  split at done
  · cases done
    exact ledger_finishRegistration (hub.setRegistry registry) registration.heart
  · cases done
    exact ledger_disarm _ _

theorem ledger_purgeStalled (hub : Hub) (heart : String) :
    (hub.purgeStalled heart).ledger = hub.ledger := by
  unfold purgeStalled
  split
  · rfl
  · next record deletion registry _ =>
      have disarmed := ledger_disarm (hub.setRegistry registry) deletion
      cases record.requester <;> exact disarmed

theorem ledger_unregisterEngine (done : hub.unregisterEngine identity message = .ok after) :
    after.ledger = hub.ledger := by
  unfold unregisterEngine at done
  rcases Fault.bind_eq_ok_iff.mp done with ⟨request, _, done⟩
  rcases Fault.bind_eq_ok_iff.mp done with ⟨record, _, done⟩
  split at done
  · split at done
    · contradiction
    · cases done
      exact ledger_disarm _ _
  · contradiction

theorem ledger_sweepStranded (hub : Hub) (engine : EngineId) (queue : String) :
    (hub.sweepStranded engine queue).ledger =
      (hub.ledger.strandedSweep engine queue hub.time).2 := by
  have removed : ∀ registry deletion,
      (((hub.swept engine queue).setRegistry registry).disarm deletion).ledger =
        (hub.swept engine queue).ledger := fun registry deletion => ledger_disarm _ deletion
  unfold sweepStranded
  simp only
  split
  · rfl
  · exact removed _ _

theorem ledger_runHeartDuty (duty : HeartDuty) (heart : String) (hub : Hub) :
    (runHeartDuty duty heart hub).ledger = hub.ledger := by
  cases duty with
  | welcome =>
      rw [runHeartDuty, welcomeHeart]
      split
      · exact ledger_finishRegistration hub heart
      · rfl
  | giveUp =>
      rw [runHeartDuty, giveUpHeart]
      split <;> rfl

theorem ledger_foldl {α : Type} {step : Hub → α → Hub}
    (each : ∀ (hub : Hub) item, (step hub item).ledger = hub.ledger) (items : List α) (hub : Hub) :
    (items.foldl step hub).ledger = hub.ledger := by
  induction items generalizing hub with
  | nil => rfl
  | cons item items inductionHypothesis => exact (inductionHypothesis _).trans (each hub item)

theorem ledger_callEach (handlers : List HeartDuty) (heart : String) (hub : Hub) :
    Hub.ledger (MonitorWorld.callEach runHeartDuty handlers heart hub) = hub.ledger :=
  ledger_foldl (fun hub duty => ledger_runHeartDuty duty heart hub) handlers hub

theorem ledger_beat (hub : Hub) : hub.beat.ledger = hub.ledger := by
  let told := (hub.monitor.roll hub.now).2
  have announced := ledger_foldl (fun hub heart => ledger_callEach told.onNew heart hub)
    hub.newHearts hub.rolled
  have lost := ledger_foldl (fun hub heart => ledger_callEach told.onFailure heart
    (MonitorWorld.modifyMonitor hub Monitor.countFailure)) hub.failures
  exact (lost _).trans announced

/-! ## Events -/

/-- What an event asks of the ledger. -/
inductive Asked (hub : Hub) (event : Event) : List Ledger.Operation → Prop
  | quiet (operations : List Ledger.Operation)
      (quiet : ∀ operation ∈ operations, operation.isQuiet) : hub.Asked event operations
  | reported (message : Message) (kind : TrafficKind) (operation : Ledger.Operation)
      (reports : event = .traffic message)
      (read : (message.text 0).bind TrafficKind.ofTag = .ok kind)
      (asks : message.operation? hub.registry hub.time kind = some operation) :
      hub.Asked event [operation]
  | swept (position : Nat) (entry : TimerEntry (Reactor.Alarm Duty)) (engine : EngineId)
      (queue : String) (fires : event = .timer position)
      (stands : hub.timers.entries[position]? = some entry) (active : entry.active)
      (due : entry.action = .own (.sweepStranded engine queue)) :
      hub.Asked event [.sweep engine queue hub.time]

/-- What an event that leaves the ledger alone asks. -/
theorem asked_of_same (same : (hub.react event).ledger = hub.ledger) :
    ∃ operations, hub.Asked event operations ∧
      (hub.react event).ledger = hub.ledger.performAll operations :=
  ⟨[], .quiet [] (List.forall_mem_nil _), same⟩

theorem quiet_answerQuery (done : hub.answerQuery identity message kind = .ok after) :
    ∃ operations, (∀ operation ∈ operations, operation.isQuiet) ∧
      after.ledger = hub.ledger.performAll operations := by
  have unchanged : after.ledger = hub.ledger → ∃ operations,
      (∀ operation ∈ operations, operation.isQuiet) ∧
        after.ledger = hub.ledger.performAll operations :=
    fun same => ⟨[], List.forall_mem_nil _, same⟩
  cases reading : kind.isReading with
  | true =>
      rcases answerQuery_of_reading reading done with ⟨answer, trailing, rfl⟩
      exact unchanged rfl
  | false =>
      cases kind with
      | purge =>
          rcases purgeResults_eq_ok done with ⟨operations, quiet, same⟩
          exact ⟨operations, quiet, congrArg Core.ledger same⟩
      | resubmit =>
          rcases resubmit_eq_ok done with ⟨operations, quiet, same⟩
          exact ⟨operations, quiet, congrArg Core.ledger same⟩
      | shutdown =>
          cases done
          exact unchanged rfl
      | registration => exact unchanged (ledger_registerEngine done)
      | unregistration => exact unchanged (ledger_unregisterEngine done)
      | _ => contradiction

theorem quiet_dispatchQuery (hub : Hub) (message : Message) :
    ∃ operations, (∀ operation ∈ operations, operation.isQuiet) ∧
      (hub.dispatchQuery message).ledger = hub.ledger.performAll operations := by
  unfold dispatchQuery
  split
  · next identity kind _ _ =>
      simp only
      cases done : (hub.countQuery kind).answerQuery identity message kind with
      | ok after =>
          rcases quiet_answerQuery done with ⟨operations, quiet, same⟩
          exact ⟨operations, quiet, same⟩
      | error fault =>
          have same := core_refuse (hub.countQuery kind) identity kind fault
          exact ⟨[], List.forall_mem_nil _, congrArg Core.ledger same⟩
  · exact ⟨[], List.forall_mem_nil _, rfl⟩

theorem asked_dispatchTraffic (hub : Hub) (message : Message) :
    ∃ operations, hub.Asked (.traffic message) operations ∧
      (hub.dispatchTraffic message).ledger = hub.ledger.performAll operations := by
  cases read : (message.text 0).bind TrafficKind.ofTag with
  | error fault => exact asked_of_same (congrArg Hub.ledger (dispatchTraffic_of_unread read))
  | ok kind =>
      have done : (hub.dispatchTraffic message).ledger = hub.ledgerAfter message kind :=
        congrArg Hub.ledger (dispatchTraffic_of_read read)
      cases asks : message.operation? hub.registry hub.time kind with
      | none =>
          apply asked_of_same
          apply done.trans
          change hub.ledger.performAll (message.operation? hub.registry hub.time kind).toList = _
          rw [asks]
          rfl
      | some operation =>
          refine ⟨[operation], .reported message kind operation rfl read asks, done.trans ?_⟩
          change hub.ledger.performAll (message.operation? hub.registry hub.time kind).toList = _
          rw [asks]
          rfl

theorem asked_fire (hub : Hub) (position : Nat) :
    ∃ operations, hub.Asked (.timer position) operations ∧
      (hub.fire position).ledger = hub.ledger.performAll operations := by
  cases stands : hub.timers.entries[position]? with
  | none => exact asked_of_same (congrArg Hub.ledger (fire_of_none stands))
  | some entry =>
      cases active : entry.active with
      | false =>
          have dropped := congrArg Hub.ledger (fire_of_cancelled stands active)
          exact asked_of_same dropped
      | true =>
          have fired := congrArg Hub.ledger (fire_of_active stands active)
          cases due : entry.action with
          | deadline =>
              rw [due] at fired
              exact asked_of_same fired
          | own duty =>
              rw [due] at fired
              cases duty with
              | beat => exact asked_of_same (fired.trans (ledger_beat _))
              | purgeStalled heart => exact asked_of_same (fired.trans (ledger_purgeStalled _ heart))
              | sweepStranded engine queue =>
                  exact ⟨_, .swept position entry engine queue rfl stands active due,
                    fired.trans (ledger_sweepStranded _ engine queue)⟩
              | stop => exact asked_of_same fired

/-- Whatever happens to a hub, its ledger comes of what was asked of it. -/
theorem asked_react (hub : Hub) (event : Event) :
    ∃ operations, hub.Asked event operations ∧
      (hub.react event).ledger = hub.ledger.performAll operations := by
  cases event with
  | query message =>
      rcases quiet_dispatchQuery hub message with ⟨operations, quiet, same⟩
      exact ⟨operations, .quiet operations quiet, same⟩
  | traffic message => exact asked_dispatchTraffic hub message
  | pong message => exact asked_of_same rfl
  | beat => exact asked_of_same (ledger_beat hub)
  | timer position => exact asked_fire hub position
  | elapse d => exact asked_of_same rfl
  | flush => exact asked_of_same rfl

end ClusterHub.Hub
