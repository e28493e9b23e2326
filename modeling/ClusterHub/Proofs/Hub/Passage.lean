import ClusterHub.Proofs.Hub.Core
import ClusterHub.Proofs.Task.Operation
import Mathlib.Logic.Relation

/-!
# What events do to a core

A message, a timer that has its turn and a beat each change a core in one of a
few ways.  The relations below list them, with all that is known when
they occur; what is kept by each of them is kept by every event.  A beat is
taken apart further: the round is closed, the new hearts are welcomed one by
one, and then the failed ones are given up one by one.
-/

namespace ClusterHub

/-- Whether a timer concerns no engine in particular. -/
def Reactor.Alarm.isRoutine : Reactor.Alarm Duty → Bool
  | .deadline => true
  | .own .beat => true
  | .own .stop => true
  | .own (.purgeStalled _) => false
  | .own (.sweepStranded _ _) => false

namespace Core

variable {r : Core}

/-- The core without the timer at a position. -/
def dropTimer (r : Core) (position : Nat) : Core :=
  { r with timers := r.timers.dropAt position }

/-- Whether an operation binds tasks to engines that are there only. -/
def Knows (r : Core) (operation : Ledger.Operation) : Prop :=
  ∀ engine ∈ operation.binding, ∃ queue : String, r.registry.byQueue[queue]? = some engine

/-- What a report about a task can do. -/
def Noted (r after : Core) : Prop :=
  ∃ operations, (∀ operation ∈ operations, r.Knows operation) ∧
    after = { r with ledger := r.ledger.performAll operations }

/-- What a query can do. -/
inductive Handled (r : Core) : Core → Prop
  | noted (after : Core) (noted : r.Noted after) : Handled r after
  | stopping (deadline : Instant) : Handled r (r.schedule deadline .stop)
  | joined (record : EngineRecord) (numbered : record.id = r.registry.nextId)
      (available : r.registry.Available record.heart record.queue)
      (room : r.registry.nextId.toNat + 1 < UInt32.size)
      (active : record.state = .active) (told : record.requester = none)
      (settled : record.deletion = none) (alive : record.heart ∈ r.alive) :
      Handled r { r with registry := r.registry.enroll record }
  | waiting (record : EngineRecord) (deadline : Instant)
      (numbered : record.id = r.registry.nextId)
      (available : r.registry.Available record.heart record.queue)
      (room : r.registry.nextId.toNat + 1 < UInt32.size)
      (pending : record.state = .pending) (requested : record.requester.isSome)
      (armed : record.deletion = some ⟨r.timers.issued + 1, deadline⟩)
      (silent : record.heart ∉ r.alive) :
      Handled r { r.schedule deadline (.purgeStalled record.heart) with
        registry := r.registry.enroll record }
  | left (id : EngineId) (record : EngineRecord)
      (found : r.registry.engines[id]? = some record) (active : record.state = .active) :
      Handled r (disarm { r with registry := r.registry.withdraw record } record.deletion)

/-- What a timer that has its turn can do, unless it makes a beat: that follows
when the timer has expired. -/
inductive Fired (r : Core) (position : Nat) (entry : TimerEntry (Reactor.Alarm Duty)) :
    Core → Prop
  | expired (idle : entry.active → entry.action.isRoutine) :
      Fired r position entry (r.dropTimer position)
  | purged (id : EngineId) (record : EngineRecord) (active : entry.active)
      (due : entry.action = .own (.purgeStalled record.heart))
      (found : r.registry.engines[id]? = some record) (pending : record.state = .pending) :
      Fired r position entry
        (disarm { r.dropTimer position with registry := r.registry.withdraw record }
          record.deletion)
  | purgedNothing (heart : String) (active : entry.active)
      (due : entry.action = .own (.purgeStalled heart))
      (waiting : r.registry.pendingForHeart heart = none) :
      Fired r position entry (r.dropTimer position)
  | swept (id : EngineId) (queue : String) (now : Timestamp) (record : EngineRecord)
      (active : entry.active) (due : entry.action = .own (.sweepStranded id queue))
      (found : r.registry.engines[id]? = some record) :
      Fired r position entry (disarm { r.dropTimer position with
        registry := r.registry.withdraw record
        ledger := (r.ledger.strandedSweep id queue now).2 } record.deletion)
  | sweptNobody (id : EngineId) (queue : String) (now : Timestamp) (active : entry.active)
      (due : entry.action = .own (.sweepStranded id queue))
      (absent : r.registry.engines[id]? = none) :
      Fired r position entry { r.dropTimer position with
        ledger := (r.ledger.strandedSweep id queue now).2 }

/-- The steps of a beat, and echoes that are heard between beats. -/
inductive Pulse : Core → Core → Prop
  | heard (r : Core) (message : Message) :
      Pulse r { r with monitor := r.monitor.handlePong message }
  | rolled (r : Core) (now deadline : Instant) (arrived : r.arriving = [])
      (failed : r.failing = []) :
      Pulse r { r.schedule deadline .beat with
        monitor := (r.monitor.roll now).2.withoutHandlers
        arriving := (r.monitor.roll now).1.newHearts
        failing := (r.monitor.roll now).1.failures }
  | welcomed (r : Core) (heart : String) (rest : List String) (id : EngineId)
      (record : EngineRecord) (first : r.arriving = heart :: rest)
      (found : r.registry.engines[id]? = some record) (pending : record.state = .pending)
      (named : record.heart = heart) :
      Pulse r (disarm { r with registry := r.registry.replace record.activated, arriving := rest }
        record.deletion)
  | unawaited (r : Core) (heart : String) (rest : List String)
      (first : r.arriving = heart :: rest)
      (waiting : r.registry.pendingForHeart heart = none) :
      Pulse r { r with arriving := rest }
  | gaveUp (r : Core) (heart : String) (rest : List String) (record : EngineRecord)
      (deadline : Instant) (first : r.failing = heart :: rest)
      (found : r.registry.engines[record.id]? = some record) (active : record.state = .active)
      (named : record.heart = heart) (spared : record.queue ∉ r.registry.dead) :
      Pulse r { r.schedule deadline (.sweepStranded record.id record.queue) with
        registry := r.registry.markDead record.queue
        monitor := r.monitor.countFailure
        failing := rest }
  | unconcerned (r : Core) (heart : String) (rest : List String)
      (first : r.failing = heart :: rest)
      (nobody : ∀ (id : EngineId) (record : EngineRecord), r.registry.engines[id]? = some record →
        record.state = .active → record.heart = heart → record.queue ∈ r.registry.dead) :
      Pulse r { r with monitor := r.monitor.countFailure, failing := rest }
  | resumed (r : Core) (arrived : r.arriving = []) (failed : r.failing = []) :
      Pulse r { r with monitor := r.monitor.withEarlierHandlers [.welcome] [.giveUp] }

/-- Any number of steps of a beat. -/
abbrev Pulses : Core → Core → Prop := Relation.ReflTransGen Pulse

/-- One step of any kind. -/
inductive Step (r after : Core) : Prop
  | handled (handled : r.Handled after)
  | fired (position : Nat) (entry : TimerEntry (Reactor.Alarm Duty))
      (stands : r.timers.entries[position]? = some entry) (fired : r.Fired position entry after)
  | pulse (pulse : Pulse r after)

/-- Any number of steps. -/
abbrev Steps : Core → Core → Prop := Relation.ReflTransGen Step

theorem Pulses.steps {after : Core} (pulses : Pulses r after) : Steps r after := by
  induction pulses with
  | refl => exact .refl
  | tail _ last inductionHypothesis => exact inductionHypothesis.tail (.pulse last)

theorem Pulse.consistent {after : Core} (pulse : Pulse r after)
    (consistent : r.registry.Consistent) : after.registry.Consistent := by
  cases pulse with
  | heard => exact consistent
  | rolled => exact consistent
  | welcomed heart rest id record first found =>
      exact consistent.replace found rfl rfl rfl
  | unawaited => exact consistent
  | gaveUp => exact { consistent with }
  | unconcerned => exact consistent
  | resumed => exact consistent

theorem Pulses.consistent {after : Core} (pulses : Pulses r after)
    (consistent : r.registry.Consistent) : after.registry.Consistent := by
  induction pulses with
  | refl => exact consistent
  | tail _ last inductionHypothesis => exact last.consistent inductionHypothesis

theorem Handled.timers_extends {after : Core} (handled : r.Handled after) :
    r.timers.Extends after.timers := by
  cases handled with
  | noted after noted =>
      rcases noted with ⟨operations, _, rfl⟩
      exact .refl _
  | stopping => exact Timers.extends_scheduleAt ..
  | joined => exact .refl _
  | waiting => exact Timers.extends_scheduleAt ..
  | left => exact Timers.extends_disarm _

theorem Fired.timers_extends {position : Nat} {entry : TimerEntry (Reactor.Alarm Duty)}
    {after : Core} (fired : r.Fired position entry after) : r.timers.Extends after.timers := by
  have dropped : r.timers.Extends (r.timers.dropAt position) := Timers.extends_dropAt position
  cases fired with
  | purged => exact dropped.trans (Timers.extends_disarm _)
  | swept => exact dropped.trans (Timers.extends_disarm _)
  | _ => exact dropped

theorem Pulse.timers_extends {after : Core} (pulse : Pulse r after) :
    r.timers.Extends after.timers := by
  cases pulse with
  | rolled => exact Timers.extends_scheduleAt ..
  | welcomed => exact Timers.extends_disarm _
  | gaveUp => exact Timers.extends_scheduleAt ..
  | _ => exact .refl _

theorem Steps.timers_extends {after : Core} (steps : Steps r after) :
    r.timers.Extends after.timers := by
  induction steps with
  | refl => exact .refl _
  | tail _ last inductionHypothesis =>
      apply inductionHypothesis.trans
      cases last with
      | handled handled => exact handled.timers_extends
      | fired position entry stands fired => exact fired.timers_extends
      | pulse pulse => exact pulse.timers_extends

/-- Whether a number was given out, and nobody has it any more. -/
def Gone (r : Core) (id : EngineId) : Prop :=
  r.registry.engines[id]? = none ∧ id < r.registry.nextId

variable {id : EngineId}

theorem Gone.enroll {record : EngineRecord} (gone : r.Gone id)
    (room : r.registry.nextId.toNat + 1 < UInt32.size) :
    Gone { r with registry := r.registry.enroll record } id := by
  rcases gone with ⟨absent, bound⟩
  refine ⟨?_, (EngineId.lt_succ_iff room).mpr (Or.inl bound)⟩
  rw [Registry.getElem?_enroll, if_neg]
  · exact absent
  · rintro rfl
    exact UInt32.lt_irrefl _ bound

theorem Gone.withdraw {record : EngineRecord} (gone : r.Gone id) :
    Gone { r with registry := r.registry.withdraw record } id := by
  refine ⟨?_, gone.2⟩
  rw [Registry.getElem?_withdraw]
  split
  · rfl
  · exact gone.1

theorem Step.gone {after : Core} (step : r.Step after) (consistent : r.registry.Consistent)
    (gone : r.Gone id) : after.Gone id := by
  cases step with
  | handled handled =>
      cases handled with
      | noted after noted =>
          rcases noted with ⟨operations, _, rfl⟩
          exact gone
      | stopping => exact gone
      | joined record numbered available room => exact gone.enroll room
      | waiting record deadline numbered available room => exact gone.enroll room
      | left => exact gone.withdraw
  | fired position entry stands fired =>
      cases fired with
      | purged => exact gone.withdraw
      | swept => exact gone.withdraw
      | _ => exact gone
  | pulse pulse =>
      cases pulse with
      | welcomed heart rest other record first found =>
          refine ⟨?_, gone.2⟩
          have different : record.id ≠ id := by
            rintro rfl
            have numbered := consistent.identified found
            rw [← numbered, gone.1] at found
            contradiction
          exact (Registry.getElem?_replace id).trans (if_neg different |>.trans gone.1)
      | _ => exact gone

/-! ## What stays the same -/

theorem Handled.monitor_eq {after : Core} (handled : r.Handled after) :
    after.monitor = r.monitor := by
  cases handled with
  | noted after noted =>
      rcases noted with ⟨operations, _, rfl⟩
      rfl
  | _ => rfl

theorem Fired.monitor_eq {position : Nat} {entry : TimerEntry (Reactor.Alarm Duty)}
    {after : Core} (fired : r.Fired position entry after) : after.monitor = r.monitor := by
  cases fired <;> rfl

theorem Fired.nextId_eq {position : Nat} {entry : TimerEntry (Reactor.Alarm Duty)}
    {after : Core} (fired : r.Fired position entry after) :
    after.registry.nextId = r.registry.nextId := by
  cases fired <;> rfl

theorem Pulse.nextId_eq {after : Core} (pulse : Pulse r after) :
    after.registry.nextId = r.registry.nextId := by
  cases pulse <;> rfl

theorem Pulses.nextId_eq {after : Core} (pulses : Pulses r after) :
    after.registry.nextId = r.registry.nextId := by
  induction pulses with
  | refl => rfl
  | tail _ last inductionHypothesis => exact last.nextId_eq.trans inductionHypothesis

end Core

end ClusterHub
