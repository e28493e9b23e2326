import ClusterHub.Proofs.Hub.Passage
import ClusterHub.Proofs.Task.Consistency

/-!
# Coherence

How the engines, the timers and the hearts of a hub belong together.  An engine
that waits has a timer of its own, and an engine that was given up has one,
too.  Amid a beat the hearts that are still to be welcomed or given up count as
if that had not happened yet.
-/

namespace ClusterHub.Core

/-- The parts of a core fit together. -/
structure Coherent (r : Core) : Prop where
  consistent : r.registry.Consistent
  ticketed : r.timers.Ticketed
  ledger : r.ledger.Consistent
  /-- An engine that waits can be told, and its heart is not alive. -/
  waiting : ∀ {id : EngineId} {record : EngineRecord}, r.registry.engines[id]? = some record →
    record.state = .pending →
    record.requester.isSome ∧ (record.heart ∈ r.alive → record.heart ∈ r.arriving)
  /-- An engine that waits has a timer that purges it. -/
  armed : ∀ {id : EngineId} {record : EngineRecord}, r.registry.engines[id]? = some record →
    record.state = .pending →
    ∃ entry ∈ r.timers.running, entry.action = .own (.purgeStalled record.heart) ∧
      record.deletion = some entry.handle
  /-- An active engine waits for nothing. -/
  settled : ∀ {id : EngineId} {record : EngineRecord}, r.registry.engines[id]? = some record →
    record.state = .active → record.requester = none ∧ record.deletion = none
  /-- The heart of an active engine is alive, or the engine was given up. -/
  beating : ∀ {id : EngineId} {record : EngineRecord}, r.registry.engines[id]? = some record →
    record.state = .active → record.queue ∉ r.registry.dead →
    record.heart ∈ r.alive ∨ record.heart ∈ r.failing
  /-- Timers purge engines that wait for them. -/
  purges : ∀ {entry : TimerEntry (Reactor.Alarm Duty)} {heart : String},
    entry ∈ r.timers.running → entry.action = .own (.purgeStalled heart) →
    ∃ (id : EngineId) (record : EngineRecord), r.registry.engines[id]? = some record ∧
      record.state = .pending ∧ record.heart = heart ∧ record.deletion = some entry.handle
  /-- Engines that were given up are active ones. -/
  givenUp : ∀ {queue : String}, queue ∈ r.registry.dead →
    ∃ (id : EngineId) (record : EngineRecord), r.registry.engines[id]? = some record ∧
      record.queue = queue ∧ record.state = .active
  /-- An engine that was given up has a timer that sweeps it. -/
  doomed : ∀ {id : EngineId} {record : EngineRecord}, r.registry.engines[id]? = some record →
    record.queue ∈ r.registry.dead →
    ∃ entry ∈ r.timers.running, entry.action = .own (.sweepStranded id record.queue)
  /-- Timers sweep engines that were given up or have gone. -/
  sweeps : ∀ {entry : TimerEntry (Reactor.Alarm Duty)} {id : EngineId} {queue : String},
    entry ∈ r.timers.running → entry.action = .own (.sweepStranded id queue) →
    id < r.registry.nextId ∧
      ∀ record : EngineRecord, r.registry.engines[id]? = some record →
        record.queue = queue ∧ queue ∈ r.registry.dead
  /-- No engine is swept twice. -/
  once : ∀ {entry other : TimerEntry (Reactor.Alarm Duty)} {id : EngineId} {queue name : String},
    entry ∈ r.timers.running → other ∈ r.timers.running →
    entry.action = .own (.sweepStranded id queue) → other.action = .own (.sweepStranded id name) →
    entry.ticket = other.ticket
  /-- Hearts that are to be welcomed are alive. -/
  arrived : ∀ heart ∈ r.arriving, heart ∈ r.alive

variable {r after : Core}

/-- Nobody has registered yet. -/
theorem coherent_start (monitor : Monitor HeartDuty) :
    Coherent { registry := {}, ledger := {}, timers := {}, monitor } := by
  constructor
  case consistent => exact Registry.consistent_empty
  case ticketed => exact Timers.ticketed_empty
  case ledger => exact Ledger.consistent_empty
  all_goals simp [Timers.running]

theorem Coherent.active_of_dead (coherent : r.Coherent) {id : EngineId} {record : EngineRecord}
    (found : r.registry.engines[id]? = some record) (dead : record.queue ∈ r.registry.dead) :
    record.state = .active := by
  rcases coherent.givenUp dead with ⟨other, another, otherFound, named, active⟩
  cases coherent.consistent.eq_of_queue found otherFound named.symm
  cases found.symm.trans otherFound
  exact active

/-- An engine that a timer sweeps is active, and was given up. -/
theorem Coherent.swept_active (coherent : r.Coherent) {id : EngineId} {queue : String}
    {record : EngineRecord} {entry : TimerEntry (Reactor.Alarm Duty)}
    (running : entry ∈ r.timers.running) (due : entry.action = .own (.sweepStranded id queue))
    (found : r.registry.engines[id]? = some record) :
    record.queue = queue ∧ record.queue ∈ r.registry.dead ∧ record.state = .active := by
  rcases (coherent.sweeps running due).2 record found with ⟨named, dead⟩
  rw [← named] at dead
  exact ⟨named, dead, coherent.active_of_dead found dead⟩

/-- The timer of an engine that waits does nothing but purge it. -/
theorem Coherent.ticket_ne_of_pending (coherent : r.Coherent) {id : EngineId}
    {record : EngineRecord} {entry : TimerEntry (Reactor.Alarm Duty)} {handle : TimerHandle}
    (found : r.registry.engines[id]? = some record) (pending : record.state = .pending)
    (armed : record.deletion = some handle) (running : entry ∈ r.timers.running)
    (unlike : entry.action ≠ .own (.purgeStalled record.heart)) : entry.ticket ≠ handle.ticket := by
  rcases coherent.armed found pending with ⟨own, ownRunning, ownDue, ownHandle⟩
  intro same
  rw [armed] at ownHandle
  cases ownHandle
  rw [coherent.ticketed.eq_of_running running ownRunning same] at unlike
  exact unlike ownDue

/-- What matters of the timers are those that concern an engine, and of those
that sweep only the ones whose engine is still there. -/
theorem Coherent.retime (coherent : r.Coherent) {timers : Timers (Reactor.Alarm Duty)}
    (ticketed : timers.Ticketed)
    (fewer : ∀ entry ∈ timers.running, entry.action.isRoutine = false → entry ∈ r.timers.running)
    (kept : ∀ entry ∈ r.timers.running, entry.action.isRoutine = false →
      (∀ id queue, entry.action = .own (.sweepStranded id queue) →
        r.registry.engines[id]?.isSome) → entry ∈ timers.running) :
    Coherent { r with timers } where
  consistent := coherent.consistent
  ticketed := ticketed
  ledger := coherent.ledger
  waiting := coherent.waiting
  armed found pending := by
    rcases coherent.armed found pending with ⟨entry, running, due, handle⟩
    refine ⟨entry, kept entry running ?_ ?_, due, handle⟩
    · rw [due]
      rfl
    · intro id queue sweeping
      rw [due] at sweeping
      cases sweeping
  settled := coherent.settled
  beating := coherent.beating
  purges running due := coherent.purges (fewer _ running (by rw [due]; rfl)) due
  givenUp := coherent.givenUp
  doomed {id record} found dead := by
    rcases coherent.doomed found dead with ⟨entry, running, due⟩
    refine ⟨entry, kept entry running ?_ ?_, due⟩
    · rw [due]
      rfl
    · intro other queue sweeping
      rw [due] at sweeping
      cases sweeping
      rw [found]
      rfl
  sweeps running due := coherent.sweeps (fewer _ running (by rw [due]; rfl)) due
  once running otherRunning due otherDue :=
    coherent.once (fewer _ running (by rw [due]; rfl))
      (fewer _ otherRunning (by rw [otherDue]; rfl)) due otherDue
  arrived := coherent.arrived

/-- Setting a routine timer makes no difference. -/
theorem Coherent.schedule (coherent : r.Coherent) {deadline : Instant} {duty : Duty}
    (routine : (Reactor.Alarm.own duty).isRoutine) : (r.schedule deadline duty).Coherent := by
  refine coherent.retime (coherent.ticketed.scheduleAt deadline _) ?_ ?_
  · intro entry running concerned
    rcases Timers.mem_running_scheduleAt.mp running with rfl | running
    · rw [routine] at concerned
      contradiction
    · exact running
  · intro entry running _ _
    exact Timers.mem_running_scheduleAt.mpr (Or.inr running)

/-- What matters of the hearts is which of them are alive or failing. -/
theorem Coherent.remonitor (coherent : r.Coherent) {monitor : Monitor HeartDuty}
    {arriving failing : List String}
    (waiting : ∀ {id : EngineId} {record : EngineRecord}, r.registry.engines[id]? = some record →
      record.state = .pending → record.heart ∈ monitor.liveness.alive → record.heart ∈ arriving)
    (beating : ∀ {id : EngineId} {record : EngineRecord}, r.registry.engines[id]? = some record →
      record.state = .active → record.queue ∉ r.registry.dead →
      record.heart ∈ monitor.liveness.alive ∨ record.heart ∈ failing)
    (arrived : ∀ heart ∈ arriving, heart ∈ monitor.liveness.alive) :
    Coherent { r with monitor, arriving, failing } :=
  { coherent with
    waiting := fun found pending => ⟨(coherent.waiting found pending).1, waiting found pending⟩
    beating
    arrived }

/-- Changing nothing but the monitor makes no difference if it changes nobody's
being alive. -/
theorem Coherent.remonitor_of_same (coherent : r.Coherent) {monitor : Monitor HeartDuty}
    (same : monitor.liveness.alive = r.monitor.liveness.alive) :
    Coherent { r with monitor } := by
  refine coherent.remonitor ?_ ?_ ?_
  · rw [same]
    exact fun found pending => (coherent.waiting found pending).2
  · rw [same]
    exact coherent.beating
  · rw [same]
    exact coherent.arrived

end ClusterHub.Core
