import ClusterHub.Proofs.Hub.Correspondence
import ClusterHub.Proofs.Hub.Ledger
import ClusterHub.Proofs.Task.Attribution
import Mathlib.Data.List.Induction

/-!
# Which engine a task is put down to

A number and a queue belong together if an engine was given the number when it
registered with the queue.  Engines that are there, timers that sweep engines and
records of tasks name engines by numbers and queues that belong together, whatever
has become of the engines since, and whoever has their queues by now.
-/

namespace ClusterHub

namespace Core

variable {belong : EngineId → String → Prop} {r after : Core} {id : EngineId}

/-- Whether engines and the timers that sweep them have numbers and queues that
belong together. -/
structure Named (belong : EngineId → String → Prop) (r : Core) : Prop where
  engines : ∀ {id : EngineId} {record : EngineRecord}, r.registry.engines[id]? = some record →
    belong id record.queue
  sweeps : ∀ {entry : TimerEntry (Reactor.Alarm Duty)} {id : EngineId} {queue : String},
    entry ∈ r.timers.running → entry.action = .own (.sweepStranded id queue) → belong id queue

/-- Nobody has registered yet. -/
theorem named_start (monitor : Monitor HeartDuty) :
    Named belong { registry := {}, ledger := {}, timers := {}, monitor } := by
  constructor <;> simp [Timers.running]

theorem Named.mono (named : r.Named belong) {other : EngineId → String → Prop}
    (more : ∀ id queue, belong id queue → other id queue) : r.Named other :=
  ⟨fun found => more _ _ (named.engines found),
    fun running due => more _ _ (named.sweeps running due)⟩

/-- Only timers that sweep matter. -/
theorem Named.schedule (named : r.Named belong) {deadline : Instant} {duty : Duty}
    (fits : ∀ id queue, duty = .sweepStranded id queue → belong id queue) :
    (r.schedule deadline duty).Named belong := by
  refine ⟨named.engines, ?_⟩
  intro entry id queue running due
  rcases Timers.mem_running_scheduleAt.mp running with rfl | before
  · exact fits id queue (Reactor.Alarm.own.inj due)
  · exact named.sweeps before due

theorem Named.disarm (named : r.Named belong) (handle : Option TimerHandle) :
    (r.disarm handle).Named belong :=
  ⟨named.engines, fun running due => named.sweeps (Timers.mem_running_disarm.mp running).1 due⟩

theorem Named.dropTimer (named : r.Named belong) (position : Nat) :
    (r.dropTimer position).Named belong := by
  refine ⟨named.engines, ?_⟩
  intro entry id queue running due
  rcases Timers.mem_running.mp running with ⟨member, active⟩
  have before := Timers.mem_running.mpr ⟨List.mem_of_mem_eraseIdx member, active⟩
  exact named.sweeps before due

theorem Named.withdraw (named : r.Named belong) (record : EngineRecord) :
    Named belong { r with registry := r.registry.withdraw record } :=
  ⟨fun found => named.engines (Registry.found_of_withdraw found).2, named.sweeps⟩

theorem Named.enroll (named : r.Named belong) {record : EngineRecord}
    (fresh : belong r.registry.nextId record.queue) :
    Named belong { r with registry := r.registry.enroll record } := by
  refine ⟨?_, named.sweeps⟩
  intro id other found
  rcases Registry.eq_or_found_of_enroll found with ⟨rfl, rfl⟩ | ⟨_, before⟩
  · exact fresh
  · exact named.engines before

/-- An engine that a query enrolls is known by its number and its queue. -/
theorem Handled.named (handled : r.Handled after) (named : r.Named belong)
    (fresh : ∀ record : EngineRecord,
      after.registry = r.registry.enroll record → belong r.registry.nextId record.queue) :
    after.Named belong := by
  cases handled with
  | noted after noted =>
      rcases noted with ⟨operations, _, rfl⟩
      exact ⟨named.engines, named.sweeps⟩
  | stopping deadline => exact named.schedule nofun
  | joined record => exact named.enroll (fresh record rfl)
  | waiting record deadline =>
      have scheduled : (r.schedule deadline (.purgeStalled record.heart)).Named belong :=
        named.schedule nofun
      exact scheduled.enroll (fresh record rfl)
  | left id record => exact (named.withdraw record).disarm record.deletion

theorem Fired.named {position : Nat} {entry : TimerEntry (Reactor.Alarm Duty)}
    (fired : r.Fired position entry after) (named : r.Named belong) : after.Named belong := by
  have dropped := named.dropTimer position
  cases fired with
  | expired => exact dropped
  | purged id record => exact (dropped.withdraw record).disarm record.deletion
  | purgedNothing => exact dropped
  | swept id queue now record =>
      have withdrawn := (dropped.withdraw record).disarm record.deletion
      exact ⟨withdrawn.engines, withdrawn.sweeps⟩
  | sweptNobody => exact ⟨dropped.engines, dropped.sweeps⟩

theorem Pulse.named (pulse : Pulse r after) (consistent : r.registry.Consistent)
    (named : r.Named belong) : after.Named belong := by
  cases pulse with
  | heard => exact ⟨named.engines, named.sweeps⟩
  | rolled now deadline =>
      have scheduled : (r.schedule deadline .beat).Named belong := named.schedule nofun
      exact ⟨scheduled.engines, scheduled.sweeps⟩
  | welcomed heart rest id record first found =>
      have replaced : Named belong
          { r with registry := r.registry.replace record.activated, arriving := rest } := by
        refine ⟨?_, named.sweeps⟩
        intro other another otherFound
        rcases Registry.eq_or_found_of_replace otherFound with ⟨rfl, rfl⟩ | ⟨_, before⟩
        · rw [← consistent.identified found] at found
          exact (named.engines found : belong record.id record.queue)
        · exact named.engines before
      exact replaced.disarm record.deletion
  | unawaited => exact ⟨named.engines, named.sweeps⟩
  | gaveUp heart rest record deadline first found =>
      have scheduled : (r.schedule deadline
          (.sweepStranded record.id record.queue)).Named belong := by
        apply named.schedule
        rintro id queue same
        cases same
        exact named.engines found
      exact ⟨scheduled.engines, scheduled.sweeps⟩
  | unconcerned => exact ⟨named.engines, named.sweeps⟩
  | resumed => exact ⟨named.engines, named.sweeps⟩

theorem Pulses.named (pulses : Pulses r after) (consistent : r.registry.Consistent)
    (named : r.Named belong) : after.Named belong := by
  induction pulses with
  | refl => exact named
  | tail first last inductionHypothesis =>
      exact last.named (Pulses.consistent first consistent) inductionHypothesis

end Core

namespace Hub

variable {hub after : Hub} {event : Event} {history : List Event} {id : EngineId}
  {queue : String} {belong : EngineId → String → Prop} {identity : Frame} {message : Message}
  {kind : QueryKind}

/-- Whether an event is a request to join that is granted, and the number is given to an
engine of that queue. -/
def registers (id : EngineId) (queue : String) (hub : Hub) (event : Event) : Prop :=
  hub.admits event ∧ hub.registry.nextId = id ∧
    ∃ message identity registration, event = .query message ∧
      IsRegistration message identity registration ∧ registration.queue = queue

/-- A number is given out to a request to join, whose queue goes into the registry. -/
theorem registry_of_admission (orderly : hub.Orderly) (room : hub.HasRoom (.query message))
    (admission : hub.admits (.query message)) :
    ∃ identity registration record, IsRegistration message identity registration ∧
      record.queue = registration.queue ∧
      (hub.react (.query message)).registry = hub.registry.enroll record := by
  have given : (hub.dispatchQuery message).registry.nextId ≠ hub.registry.nextId :=
    of_decide_eq_true admission
  have joining : ∃ identity registration, IsRegistration message identity registration :=
    Classical.byContradiction fun other => given (nextId_of_not_isRegistration orderly other)
  rcases joining with ⟨identity, registration, asks⟩
  refine ⟨identity, registration, ?_⟩
  by_cases available : hub.registry.Available registration.heart registration.queue
  · cases alive : hub.monitor.isAlive registration.heart with
    | true =>
        have core := core_dispatchQuery_of_alive orderly.consistent room asks available alive
        exact ⟨_, asks, rfl, congrArg Core.registry core⟩
    | false =>
        have core := core_dispatchQuery_of_silent orderly.consistent asks available alive
        exact ⟨_, asks, rfl, congrArg Core.registry core⟩
  · have same := (refuses_of_taken orderly.consistent asks available).registry
    exact absurd (congrArg Registry.nextId same) given

/-! ## What an event asks of the ledger -/

/-- The ledger has been asked for operations that fit. -/
def Asks (belong : EngineId → String → Prop) (before after : Ledger) : Prop :=
  ∃ operations, (∀ operation ∈ operations, operation.Fits belong) ∧
    after = before.performAll operations

/-- Reports put tasks down to engines that the registry knows by their queues. -/
theorem fits_of_operation? (consistent : hub.registry.Consistent)
    (named : hub.core.Named belong) {kind : TrafficKind} {operation : Ledger.Operation}
    (asked : message.operation? hub.registry hub.time kind = some operation) :
    operation.Fits belong := by
  have found : ∀ (queue : String) (id : EngineId), hub.registry.idByQueue queue = some id →
      belong id queue := by
    intro queue id listed
    rcases Option.map_eq_some_iff.mp ((consistent.byQueue queue id).mp listed) with
      ⟨record, stands, rfl⟩
    exact named.engines stands
  have fits : ∀ (name : Option String), ∀ id ∈ name.bind hub.registry.idByQueue,
      ∃ queue ∈ name, belong id queue := by
    intro name id bound
    rcases Option.bind_eq_some_iff.mp (Option.mem_def.mp bound) with ⟨queue, named, listed⟩
    exact ⟨queue, named, found queue id listed⟩
  cases kind with
  | queueRequest | taskRequest | queueResult | taskResult =>
      rcases Option.map_eq_some_iff.mp asked with ⟨header, _, rfl⟩
      exact fits header.engine
  | taskDestination =>
      rcases Option.bind_eq_some_iff.mp asked with ⟨destination, _, asked⟩
      rcases Option.map_eq_some_iff.mp asked with ⟨engine, listed, rfl⟩
      exact found destination.engine engine listed
  | output =>
      rcases Option.map_eq_some_iff.mp asked with ⟨header, _, rfl⟩
      trivial
  | controlRequest | controlReply => contradiction

/-- Queries put no task down to an engine, and a sweep puts tasks down to the engine that
its timer names. -/
theorem asks_react (consistent : hub.registry.Consistent) (named : hub.core.Named belong)
    (event : Event) : Asks belong hub.ledger (hub.react event).ledger := by
  rcases asked_react hub event with ⟨operations, asked, same⟩
  refine ⟨operations, ?_, same⟩
  cases asked with
  | quiet _ quiet =>
      exact fun operation member => Ledger.Operation.fits_of_isQuiet (quiet operation member)
  | reported message kind operation _ _ asks =>
      intro other member
      rw [List.mem_singleton.mp member]
      exact fits_of_operation? consistent named asks
  | swept position entry engine queue _ stands active due =>
      intro other member
      rw [List.mem_singleton.mp member]
      exact named.sweeps (Timers.mem_running.mpr ⟨List.mem_of_getElem? stands, active⟩) due

/-! ## Histories -/

theorem named_react (orderly : hub.Orderly) (room : hub.HasRoom event)
    (named : hub.core.Named belong)
    (fresh : ∀ id queue, registers id queue hub event → belong id queue) :
    (hub.react event).core.Named belong := by
  cases event with
  | query message =>
      refine (handled_dispatchQuery orderly.consistent room).named named ?_
      intro record enrolled
      have admission : hub.admits (.query message) := by
        refine decide_eq_true ?_
        change (hub.dispatchQuery message).core.registry.nextId ≠ hub.registry.nextId
        rw [enrolled]
        exact EngineId.succ_ne_self _
      rcases registry_of_admission orderly room admission with
        ⟨identity, registration, other, asks, queue, same⟩
      have own : (hub.react (.query message)).registry = hub.registry.enroll record := enrolled
      cases (found_of_enroll own).symm.trans (found_of_enroll same)
      rw [queue]
      exact fresh _ _ ⟨admission, rfl, message, identity, registration, rfl, asks, rfl⟩
  | traffic message =>
      rcases noted_dispatchTraffic hub message with ⟨operations, _, same⟩
      rw [react, same]
      exact ⟨named.engines, named.sweeps⟩
  | pong message => exact ⟨named.engines, named.sweeps⟩
  | beat => exact (pulses_beat orderly.attentive orderly.consistent).named orderly.consistent named
  | timer position =>
      cases stands : hub.timers.entries[position]? with
      | none =>
          rw [react, fire_of_none stands]
          exact named
      | some entry =>
          rcases fired_fire orderly.consistent stands with fired | ⟨active, due⟩
          · exact fired.named named
          · rw [react, fire_of_beat stands active due]
            have dropped := orderly.dropTimer stands due
            exact (pulses_beat dropped.attentive dropped.consistent).named dropped.consistent
              (named.dropTimer position)
  | elapse d => exact named
  | flush => exact named

theorem happens_concat (kind : Hub → Event → Prop) (past : List Event) (event : Event) :
    hub.happens kind (past ++ [event]) ↔ hub.happens kind past ∨ kind (hub.run past) event := by
  induction past generalizing hub with
  | nil => simp [happens_cons, not_happens_nil]
  | cons first past inductionHypothesis =>
      rw [List.cons_append, happens_cons, happens_cons, inductionHypothesis, run_cons, or_assoc]

/-- What is known of the numbers and queues of all engines that registered in a
history. -/
structure Attributes (start : Hub) (history : List Event) : Prop where
  /-- Numbers that were given out are below the next one. -/
  below : ∀ {id : EngineId} {queue : String}, start.happens (registers id queue) history →
    id < (start.run history).registry.nextId
  /-- No number was given out twice. -/
  once : ∀ {id : EngineId} {queue name : String}, start.happens (registers id queue) history →
    start.happens (registers id name) history → queue = name
  named : (start.run history).core.Named fun id queue => start.happens (registers id queue) history
  tasks : (start.run history).ledger.Attributed fun id queue =>
    start.happens (registers id queue) history

theorem registers_unique {name : String} (first : registers id queue hub event)
    (second : registers id name hub event) : queue = name := by
  rcases first with ⟨_, _, message, identity, registration, rfl, asks, rfl⟩
  rcases second with ⟨_, _, other, sender, another, same, otherAsks, rfl⟩
  cases same
  have read := asks.payload.symm.trans otherAsks.payload
  rw [Except.ok.inj read]

theorem attributes_of_history {start : Hub} (attached : start.IsAttached)
    (enough : start.HasRoomFor history) : Attributes start history := by
  have orderly := attached.orderly
  induction history using List.reverseRecOn with
  | nil =>
      have never : ∀ {id queue}, ¬ start.happens (registers id queue) [] := not_happens_nil start _
      rcases attached with ⟨config, engineAddresses, clientAddresses, now, rfl⟩
      constructor
      case below => exact fun happened => absurd happened never
      case once => exact fun happened => absurd happened never
      case named => exact (Core.named_start _).schedule nofun
      case tasks => exact Ledger.attributed_empty
  | append_singleton past event inductionHypothesis =>
      have known := inductionHypothesis enough.past
      have middle := orderly_run orderly enough.past
      have room := (enough.future orderly).head
      have more : ∀ id queue, start.happens (registers id queue) past →
          start.happens (registers id queue) (past ++ [event]) := fun id queue happened =>
        (happens_concat _ past event).mpr (Or.inl happened)
      have named := known.named.mono more
      constructor
      case below =>
        intro id queue happened
        have counted := toNat_nextId_react middle room
        rw [run_append]
        change id < ((start.run past).react event).registry.nextId
        rw [UInt32.lt_iff_toNat_lt, counted]
        rcases (happens_concat _ past event).mp happened with earlier | ⟨admission, rfl, _⟩
        · exact Nat.lt_add_right _ (UInt32.lt_iff_toNat_lt.mp (known.below earlier))
        · rw [admission]
          exact Nat.lt_succ_self _
      case once =>
        intro id queue name first second
        rcases (happens_concat _ past event).mp first with earlier | now
        · rcases (happens_concat _ past event).mp second with otherEarlier | otherNow
          · exact known.once earlier otherEarlier
          · have below := known.below earlier
            rw [← otherNow.2.1] at below
            exact absurd below (UInt32.lt_irrefl _)
        · rcases (happens_concat _ past event).mp second with otherEarlier | otherNow
          · have below := known.below otherEarlier
            rw [← now.2.1] at below
            exact absurd below (UInt32.lt_irrefl _)
          · exact registers_unique now otherNow
      case named =>
        rw [run_append]
        refine named_react middle room named fun id queue now => ?_
        exact (happens_concat _ past event).mpr (Or.inr now)
      case tasks =>
        rcases asks_react middle.consistent named event with ⟨operations, fits, ledger⟩
        rw [run_append]
        change ((start.run past).react event).ledger.Attributed _
        rw [ledger]
        exact (known.tasks.mono more).performAll middle.coherent.ledger fits

/-- The record of a task names an engine by number exactly if it names one by queue, and
then the engine that was given the number registered with that queue, and no other
engine was ever given the number. -/
theorem attribution_of_history {start : Hub} (attached : start.IsAttached)
    (few : start.admissions history < UInt32.size) {task : String} {record : TaskRecord}
    (found : (start.run history).ledger.tasks[task]? = some record) :
    record.engine.isSome = record.engineQueue.isSome ∧
      ∀ id, record.engine = some id → ∃ queue, record.engineQueue = some queue ∧
        ∀ name, start.happens (registers id name) history ↔ name = queue := by
  have known := attributes_of_history attached (attached.hasRoomFor few)
  rcases known.tasks task record found with ⟨unbound, unnamed⟩ | ⟨engine, queue, bound, named, own⟩
  · rw [unbound, unnamed]
    exact ⟨rfl, nofun⟩
  · rw [bound, named]
    refine ⟨rfl, ?_⟩
    rintro id same
    cases same
    refine ⟨queue, rfl, fun name => ⟨fun happened => known.once happened own, ?_⟩⟩
    rintro rfl
    exact own

/-- An engine is given a task and leaves, and another one registers with its queue: the
task stays put down to the first one. -/
theorem attribution_of_history_of_succession :
    let start := attached {} default default 0
    let history : List Event :=
      [.registration (.ofText "a") ⟨"heart-a", "queue-a", "a", []⟩,
       .echo "heart-a" start.monitor.currentPing, .beat,
       .traffic (.taskRequest .immediate ⟨"task", "client", some "queue-a", none⟩ .empty),
       .unregistration (.ofText "a") "queue-a",
       .registration (.ofText "b") ⟨"heart-b", "queue-a", "b", []⟩]
    start.IsAttached ∧ start.admissions history < UInt32.size ∧
      (start.run history).registry.idByQueue "queue-a" = some 1 ∧
      ∃ record, (start.run history).ledger.tasks["task"]? = some record ∧
        record.engine = some 0 ∧ record.engineQueue = some "queue-a" ∧
        ∀ name, start.happens (registers 0 name) history ↔ name = "queue-a" := by
  intro start history
  have attached : start.IsAttached := ⟨_, _, _, _, rfl⟩
  have few : start.admissions history < UInt32.size := by decide +kernel
  have successor : (start.run history).registry.idByQueue "queue-a" = some 1 := by decide +kernel
  have stands : ((start.run history).ledger.tasks["task"]?.any fun record =>
      record.engine = some 0 && record.engineQueue = some "queue-a") = true := by decide +kernel
  clear_value start history
  rcases (Option.any_eq_true _ _).mp stands with ⟨record, found, both⟩
  rcases Bool.and_eq_true_iff.mp both with ⟨bound, named⟩
  rw [decide_eq_true_eq] at bound named
  rcases (attribution_of_history attached few found).2 0 bound with ⟨queue, own, only⟩
  cases named.symm.trans own
  exact ⟨attached, few, successor, record, found, bound, named, only⟩

end Hub

end ClusterHub
