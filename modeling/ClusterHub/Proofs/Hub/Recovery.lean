import ClusterHub.Hub.Snapshot
import ClusterHub.Proofs.Hub.Ledger
import ClusterHub.Proofs.Hub.Membership
import ClusterHub.Proofs.Hub.Registration
import ClusterHub.Proofs.Task.Stranding

/-!
# Recovery of stranded tasks

When the heart of an engine has failed, a timer is set that sweeps the engine.
Nothing cancels it.  When it has its turn the tasks that are still outstanding
are completed, and from then on no task is bound to the engine and left to be
done.
-/

namespace ClusterHub

namespace Core

variable {r after : Core} {id : EngineId} {entry : TimerEntry (Reactor.Alarm Duty)}

theorem Handled.keeps_running (handled : r.Handled after) (coherent : r.Coherent)
    (running : entry ∈ r.timers.running) : entry ∈ after.timers.running := by
  cases handled with
  | noted after noted =>
      rcases noted with ⟨operations, _, rfl⟩
      exact running
  | stopping => exact Timers.mem_running_scheduleAt.mpr (Or.inr running)
  | joined => exact running
  | waiting => exact Timers.mem_running_scheduleAt.mpr (Or.inr running)
  | left id record found active =>
      rw [(coherent.settled found active).2]
      exact running

theorem Pulse.keeps_running (pulse : Pulse r after) (coherent : r.Coherent)
    (running : entry ∈ r.timers.running)
    (lasting : ∀ heart, entry.action ≠ .own (.purgeStalled heart)) :
    entry ∈ after.timers.running := by
  cases pulse with
  | rolled => exact Timers.mem_running_scheduleAt.mpr (Or.inr running)
  | welcomed heart rest other record first found pending =>
      refine Timers.mem_running_disarm.mpr ⟨running, ?_⟩
      intro handle armed
      exact coherent.ticket_ne_of_pending found pending armed running (lasting _)
  | gaveUp => exact Timers.mem_running_scheduleAt.mpr (Or.inr running)
  | _ => exact running

theorem Pulses.keeps_running (pulses : Pulses r after) (coherent : r.Coherent)
    (running : entry ∈ r.timers.running)
    (lasting : ∀ heart, entry.action ≠ .own (.purgeStalled heart)) :
    entry ∈ after.timers.running := by
  induction pulses with
  | refl => exact running
  | tail earlier last inductionHypothesis =>
      have middle := (Pulses.steps earlier).coherent coherent
      exact last.keeps_running middle inductionHypothesis lasting

theorem Fired.keeps_running {position : Nat} {fired : TimerEntry (Reactor.Alarm Duty)}
    (turn : r.Fired position fired after) (stands : r.timers.entries[position]? = some fired)
    (coherent : r.Coherent) (running : entry ∈ r.timers.running)
    (lasting : ∀ heart, entry.action ≠ .own (.purgeStalled heart))
    (other : fired.active → fired.ticket ≠ entry.ticket) : entry ∈ after.timers.running := by
  have different : entry.ticket ≠ fired.ticket := by
    intro same
    rcases Timers.mem_running.mp running with ⟨member, active⟩
    have equal := coherent.ticketed.eq_of_mem member (List.mem_of_getElem? stands) same
    rw [equal] at active
    exact other active same.symm
  have dropped : entry ∈ (r.timers.dropAt position).running :=
    (coherent.ticketed.mem_running_dropAt stands).mpr ⟨running, different⟩
  cases turn with
  | purged other record active purging found pending =>
      refine Timers.mem_running_disarm.mpr ⟨dropped, ?_⟩
      intro handle armed
      exact coherent.ticket_ne_of_pending found pending armed running (lasting _)
  | swept other name now record active sweeping found =>
      have firedRunning := Timers.mem_running.mpr ⟨List.mem_of_getElem? stands, active⟩
      have seen := (coherent.swept_active firedRunning sweeping found).2.2
      rw [(coherent.settled found seen).2]
      exact dropped
  | _ => exact dropped

/-- Reports bind no task to an engine that is not there. -/
theorem Noted.cleared (noted : r.Noted after) (consistent : r.registry.Consistent)
    (absent : r.registry.engines[id]? = none) (cleared : r.ledger.Cleared id) :
    after.ledger.Cleared id := by
  rcases noted with ⟨operations, known, rfl⟩
  have step : ∀ l, ∀ operation ∈ operations, Ledger.Cleared l id →
      (l.perform operation).Cleared id := by
    intro l operation member before
    apply before.perform operation
    intro bound
    rcases known operation member id bound with ⟨name, indexed⟩
    have named := (consistent.byQueue name id).mp indexed
    rw [absent] at named
    contradiction
  exact @Ledger.performAll_induction (fun l => l.Cleared id) operations step _ cleared

/-- An engine that is not there and has nothing left to do is given nothing more. -/
theorem Step.cleared (step : r.Step after) (consistent : r.registry.Consistent)
    (absent : r.registry.engines[id]? = none) (cleared : r.ledger.Cleared id) :
    after.ledger.Cleared id := by
  cases step with
  | handled handled =>
      cases handled with
      | noted after noted => exact noted.cleared consistent absent cleared
      | _ => exact cleared
  | fired position entry stands fired =>
      cases fired with
      | swept => exact cleared.strandedSweep _ _ _
      | sweptNobody => exact cleared.strandedSweep _ _ _
      | _ => exact cleared
  | pulse pulse =>
      cases pulse <;> exact cleared

theorem Steps.cleared (steps : Steps r after) (coherent : r.Coherent) (gone : r.Gone id)
    (cleared : r.ledger.Cleared id) : after.ledger.Cleared id := by
  induction steps with
  | refl => exact cleared
  | tail earlier last inductionHypothesis =>
      exact last.cleared (Steps.coherent earlier coherent).consistent
        (Steps.gone earlier coherent gone).1 inductionHypothesis

end Core

namespace Hub

variable {hub : Hub} {event : Event} {history : List Event} {id : EngineId} {queue : String}
  {entry : TimerEntry (Reactor.Alarm Duty)}

theorem keeps_running_react (orderly : hub.Orderly) (room : hub.HasRoom event)
    (running : entry ∈ hub.timers.running)
    (lasting : ∀ heart, entry.action ≠ .own (.purgeStalled heart))
    (unfired : ¬ hub.fires entry.ticket event) : entry ∈ (hub.react event).timers.running := by
  have coherent := orderly.coherent
  cases event with
  | query message =>
      exact (handled_dispatchQuery orderly.consistent room).keeps_running coherent running
  | traffic message =>
      have noted := noted_dispatchTraffic hub message
      exact (Core.Handled.noted _ noted).keeps_running coherent running
  | pong message => exact running
  | elapse d => exact running
  | flush => exact running
  | beat =>
      have pulses := pulses_beat orderly.attentive orderly.consistent
      exact pulses.keeps_running coherent running lasting
  | timer position =>
      change entry ∈ (hub.fire position).timers.running
      cases stands : hub.timers.entries[position]? with
      | none =>
          rw [fire_of_none stands]
          exact running
      | some fired =>
          have other : fired.active → fired.ticket ≠ entry.ticket := fun active same =>
            unfired ⟨position, fired, rfl, stands, active, same⟩
          rcases fired_fire orderly.consistent stands with turn | ⟨active, beating⟩
          · exact turn.keeps_running stands coherent running lasting other
          · have dropped := orderly.dropTimer stands beating
            have still :=
              (fired_dropTimer beating).keeps_running stands coherent running lasting other
            rw [fire_of_beat stands active beating]
            exact (pulses_beat dropped.attentive dropped.consistent).keeps_running dropped.coherent
              still lasting

theorem keeps_sweep_run (orderly : hub.Orderly) (enough : hub.HasRoomFor history)
    (running : entry ∈ hub.timers.running) (due : entry.action = .own (.sweepStranded id queue))
    (unfired : ¬ hub.everFires entry.ticket history) :
    entry ∈ (hub.run history).timers.running := by
  have lasting : ∀ heart, entry.action ≠ .own (.purgeStalled heart) := by
    rw [due]
    exact nofun
  induction history generalizing hub with
  | nil => exact running
  | cons event history inductionHypothesis =>
      rw [everFires_cons, not_or] at unfired
      exact inductionHypothesis (orderly_react orderly enough.head) (enough.tail orderly)
        (keeps_running_react orderly enough.head running lasting unfired.1) unfired.2

/-! ## What a sweep does to a hub -/

variable {position : Nat}

theorem fire_of_sweep (stands : hub.timers.entries[position]? = some entry)
    (active : entry.active) (due : entry.action = .own (.sweepStranded id queue)) :
    hub.fire position = (hub.dropTimer position).sweepStranded id queue := by
  rw [fire_of_active stands active, due]
  rfl

theorem engines_sweepStranded (hub : Hub) (consistent : hub.registry.Consistent) (id : EngineId)
    (queue : String) (other : EngineId) :
    (hub.sweepStranded id queue).core.registry.engines[other]? =
      if id = other then none else hub.registry.engines[other]? := by
  cases found : hub.registry.engines[id]? with
  | none =>
      rw [sweepStranded_of_absent found]
      change hub.registry.engines[other]? = _
      by_cases same : id = other
      · subst same
        rw [if_pos rfl]
        exact found
      · rw [if_neg same]
  | some record =>
      rw [sweepStranded_of_found consistent found]
      simp only [core_gaugeTasks, core_gaugeEngines, core_disarm, core_setRegistry, core_swept]
      refine (Registry.getElem?_withdraw other).trans ?_
      rw [consistent.identified found]

theorem timers_sweepStranded (hub : Hub) (consistent : hub.registry.Consistent) (id : EngineId)
    (queue : String) : hub.timers.Extends (hub.sweepStranded id queue).core.timers := by
  cases found : hub.registry.engines[id]? with
  | none =>
      rw [sweepStranded_of_absent found]
      exact .refl _
  | some record =>
      rw [sweepStranded_of_found consistent found]
      simp only [core_gaugeTasks, core_gaugeEngines, core_disarm, core_setRegistry, core_swept]
      exact Timers.extends_disarm _

/-- A well-formed report of a result. -/
structure IsResult (message : Message) (header : ResultHeader) : Prop where
  tag : ∃ kind, (message.text 0).bind TrafficKind.ofTag = .ok kind ∧
    (kind = .queueResult ∨ kind = .taskResult)
  payload : message.payload ResultHeader 1 = .ok header

theorem dispatchTraffic_of_result (hub : Hub) {message : Message} {header : ResultHeader}
    (reports : IsResult message header) :
    ∃ kind, hub.dispatchTraffic message = ((hub.countTraffic kind).setLedger
      (hub.ledger.saveResult header (header.engine.bind hub.registry.idByQueue)
        (bodyAt message 2) hub.time).2).gaugeTasks := by
  rcases reports with ⟨⟨kind, tag, either⟩, payload⟩
  refine ⟨kind, ?_⟩
  have taken : (hub.countTraffic kind).takeIn message kind =
      (hub.countTraffic kind).saveResult message := by
    rcases either with rfl | rfl <;> rfl
  unfold dispatchTraffic
  rw [tag]
  simp only [taken, saveResult, payload, bind, Except.bind]
  rfl

/-- What becomes of a result for a task that was completed before. -/
structure Amends (before after : Hub) (message : Message) (header : ResultHeader) : Prop where
  ledger : Ledger.Overwrites before.ledger after.ledger header (bodyAt message 2) before.time
  registry : after.registry = before.registry
  vitals : after.vitals = before.vitals

/-- A report that changes the size of no set changes no count. -/
theorem vitals_setLedger (kind : TrafficKind) {ledger : Ledger}
    (size : ledger.tasks.size = hub.ledger.tasks.size)
    (pending : ledger.pending.size = hub.ledger.pending.size)
    (completed : ledger.completed.size = hub.ledger.completed.size) :
    ((hub.countTraffic kind).setLedger ledger).gaugeTasks.vitals = hub.vitals := by
  have known : ledger.size = hub.ledger.size := size
  unfold vitals
  rw [← known, ← pending, ← completed]
  rfl

theorem amends_dispatchTraffic (orderly : hub.Orderly) {message : Message} {header : ResultHeader}
    (reports : IsResult message header) (completed : header.id ∈ hub.ledger.completed) :
    Amends hub (hub.dispatchTraffic message) message header := by
  rcases dispatchTraffic_of_result hub reports with ⟨kind, same⟩
  have overwritten := Ledger.overwrites_saveResult orderly.coherent.ledger completed
    (header.engine.bind hub.registry.idByQueue) (bodyAt message 2) hub.time
  rw [same]
  refine ⟨overwritten, rfl, ?_⟩
  exact vitals_setLedger kind overwritten.size
    (congrArg Std.ExtTreeSet.size overwritten.pending)
    (congrArg Std.ExtTreeSet.size overwritten.completed)

/-! ## Recovery -/

/-- What it comes to when the timer that sweeps an engine has its turn. -/
structure Recovers (before after : Hub) (id : EngineId) (queue : String) (ticket : Nat)
    (future : List Event) : Prop where
  ledger : Ledger.Sweeps before.ledger after.ledger id queue before.time
  engines : ∀ other, other ≠ id →
    after.registry.engines[other]? = before.registry.engines[other]?
  never : ∀ past, past <+: future →
    (after.run past).registry.engines[id]? = none ∧ (after.run past).ledger.Cleared id
  once : ¬ after.everFires ticket future
  late : ∀ past message header, past <+: future → IsResult message header →
    header.id ∈ (after.run past).ledger.completed →
    Amends (after.run past) ((after.run past).react (.traffic message)) message header

theorem recovers_of_fires (orderly : hub.Orderly) (enough : hub.HasRoomFor (event :: history))
    (running : entry ∈ hub.timers.running) (due : entry.action = .own (.sweepStranded id queue))
    (fired : hub.fires entry.ticket event) :
    Recovers hub (hub.react event) id queue entry.ticket history := by
  have next := orderly_react orderly enough.head
  have rest := enough.tail orderly
  have bound := (orderly.coherent.sweeps running due).1
  rcases fired with ⟨position, other, rfl, stands, active, same⟩
  have equal := orderly.coherent.ticketed.eq_of_mem (List.mem_of_getElem? stands)
    (Timers.mem_running.mp running).1 same
  subst equal
  have swept : hub.react (.timer position) = (hub.dropTimer position).sweepStranded id queue :=
    fire_of_sweep stands active due
  have ledger : (hub.react (.timer position)).ledger =
      (hub.ledger.strandedSweep id queue hub.time).2 := by
    rw [swept]
    exact ledger_sweepStranded (hub.dropTimer position) id queue
  have engines : ∀ other, (hub.react (.timer position)).registry.engines[other]? =
      if id = other then none else hub.registry.engines[other]? := by
    rw [swept]
    exact engines_sweepStranded (hub.dropTimer position) orderly.consistent id queue
  have sweeps :
      Ledger.Sweeps hub.ledger (hub.react (.timer position)).ledger id queue hub.time := by
    rw [ledger]
    exact Ledger.sweeps_strandedSweep orderly.coherent.ledger id queue hub.time
  have cleared := sweeps.cleared orderly.coherent.ledger
  have gone : (hub.react (.timer position)).core.Gone id := by
    refine ⟨(engines id).trans (if_pos rfl), ?_⟩
    change id < (hub.fire position).registry.nextId
    rw [nextId_fire orderly position]
    exact bound
  constructor
  case ledger => exact sweeps
  case engines =>
    intro other different
    rw [engines, if_neg different.symm]
  case never =>
    rintro past ⟨later, rfl⟩
    have steps := steps_run next rest.past
    exact ⟨(steps.gone next.coherent gone).1, steps.cleared next.coherent gone cleared⟩
  case once =>
    have set := timers_sweepStranded (hub.dropTimer position) orderly.consistent id queue
    refine not_everFires_of_spent next rest ?_ ?_
    · rw [swept]
      exact Nat.le_trans (orderly.coherent.ticketed.ticket_le running) set.issued
    · rw [swept]
      intro later laterRunning sameTicket
      rcases set.running later laterRunning with before | new
      · have dropped := (orderly.coherent.ticketed.mem_running_dropAt stands).mp before
        exact dropped.2 sameTicket
      · have issued := orderly.coherent.ticketed.ticket_le running
        rw [sameTicket] at new
        exact Nat.lt_irrefl _ (Nat.lt_of_lt_of_le new issued)
  case late =>
    rintro past message header ⟨later, rfl⟩ reports completed
    exact amends_dispatchTraffic (orderly_run next rest.past) reports completed

/-- A timer that has its turn later is the one that was set before. -/
theorem running_of_fires (orderly : hub.Orderly) (enough : hub.HasRoomFor history)
    (running : entry ∈ hub.timers.running) (fired : (hub.run history).fires entry.ticket event) :
    entry ∈ (hub.run history).timers.running := by
  rcases fired with ⟨position, other, _, stands, active, same⟩
  have otherRunning := Timers.mem_running.mpr ⟨List.mem_of_getElem? stands, active⟩
  rcases (steps_run orderly enough).timers_extends.running other otherRunning with before | new
  · rw [← orderly.coherent.ticketed.eq_of_running before running same]
    exact otherRunning
  · have issued := orderly.coherent.ticketed.ticket_le running
    rw [same] at new
    exact absurd (Nat.lt_of_lt_of_le new issued) (Nat.lt_irrefl _)

/-- Whenever the heart of an engine has failed, one timer is set that sweeps the
engine.  It stays set until it has its turn, and then it recovers the tasks of
the engine for good. -/
theorem recovery_of_failure {start : Hub} {past future : List Event} {record : EngineRecord}
    (attached : start.IsAttached) (few : start.admissions (past ++ future) < UInt32.size)
    (found : (start.run past).registry.engines[id]? = some record)
    (failed : (start.run past).registry.isDead record.queue = true) :
    ∃ entry ∈ (start.run past).timers.running,
      entry.action = .own (.sweepStranded id record.queue) ∧
      (∀ other ∈ (start.run past).timers.running, ∀ name,
        other.action = .own (.sweepStranded id name) → other = entry) ∧
      (∀ between, between <+: future → ¬ (start.run past).everFires entry.ticket between →
        entry ∈ ((start.run past).run between).timers.running) ∧
      ∀ between event later, future = between ++ event :: later →
        ((start.run past).run between).fires entry.ticket event →
        Recovers ((start.run past).run between) (((start.run past).run between).react event) id
          record.queue entry.ticket later := by
  have enough := attached.hasRoomFor few
  have orderly := orderly_run attached.orderly enough.past
  have rest := enough.future attached.orderly
  have dead : record.queue ∈ (start.run past).registry.dead :=
    Std.ExtTreeSet.contains_iff_mem.mp failed
  rcases orderly.coherent.doomed found dead with ⟨entry, running, due⟩
  refine ⟨entry, running, due, ?_, ?_, ?_⟩
  · intro other otherRunning name otherDue
    exact orderly.coherent.ticketed.eq_of_running otherRunning running
      (orderly.coherent.once otherRunning running otherDue due)
  · rintro between ⟨later, rfl⟩ unfired
    exact keeps_sweep_run orderly rest.past running due unfired
  · rintro between event later rfl fired
    exact recovers_of_fires (orderly_run orderly rest.past) (rest.future orderly)
      (running_of_fires orderly rest.past running fired) due fired

/-- An engine is given a task and falls silent for two rounds; then its timer has
its turn. -/
theorem recovery_of_failure_of_silence :
    let start := attached {} default default 0
    let past : List Event :=
      [.registration (.ofText "a") ⟨"heart-a", "queue-a", "a", []⟩,
       .echo "heart-a" start.monitor.currentPing, .beat,
       .traffic (.taskRequest .immediate ⟨"task", "client", some "queue-a", none⟩ .empty),
       .beat, .beat]
    start.IsAttached ∧ start.admissions (past ++ [.timer 5]) < UInt32.size ∧
      ∃ record, (start.run past).registry.engines[(0 : EngineId)]? = some record ∧
        (start.run past).registry.isDead record.queue = true ∧
        ∃ ticket, (start.run past).fires ticket (.timer 5) ∧
          Recovers (start.run past) ((start.run past).react (.timer 5)) 0 record.queue
            ticket [] := by
  intro start past
  have attached : start.IsAttached := ⟨_, _, _, _, rfl⟩
  have few : start.admissions (past ++ [.timer 5]) < UInt32.size := by decide +kernel
  have given : ((start.run past).registry.engines[(0 : EngineId)]?.any fun record =>
      (start.run past).registry.isDead record.queue) = true := by decide +kernel
  have last : ((start.run past).timers.entries[5]?.any fun entry =>
      entry.active && entry.action.sweeps 0) = true := by decide +kernel
  -- What is known of the history now suffices; it need not be run again.
  clear_value start past
  rcases (Option.any_eq_true _ _).mp given with ⟨record, found, failed⟩
  rcases (Option.any_eq_true _ _).mp last with ⟨other, stands, turn⟩
  rcases Bool.and_eq_true_iff.mp turn with ⟨active, sweeping⟩
  rcases Reactor.Alarm.sweeps_iff.mp sweeping with ⟨name, otherDue⟩
  obtain ⟨entry, running, due, only, stays, recovers⟩ :=
    recovery_of_failure attached few found failed
  have member := Timers.mem_running.mpr ⟨List.mem_of_getElem? stands, active⟩
  cases only other member name otherDue
  have fired : (start.run past).fires other.ticket (.timer 5) :=
    ⟨5, other, rfl, stands, active, rfl⟩
  exact ⟨attached, few, record, found, failed, other.ticket, fired,
    recovers [] (.timer 5) [] rfl fired⟩

end Hub

end ClusterHub
