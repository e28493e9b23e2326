import ClusterHub.Proofs.Heart.Calls
import ClusterHub.Proofs.Heart.Course
import ClusterHub.Proofs.Heart.Judgement

/-!
# Whom a beat notifies

A beat sets the timer of the next one, closes the round, calls the handlers and sends a
ping.  While the handlers are called the monitor has none of those that it had at first,
only those that were registered meanwhile; so nobody is called because of them, and in
the end they stand behind the others.
-/

namespace ClusterHub.MonitorWorld

variable {η ρ α : Type} {plan : Plan η ρ α} {again : α} {world last : MonitorWorld η ρ α}
  {call : Call η ρ α} {calls : List (Call η ρ α)}

/-- The handle of the timer of the next beat. -/
def nextBeat (world : MonitorWorld η ρ α) : TimerHandle :=
  ⟨world.timers.issued + 1, world.now + world.rest.monitor.interval⟩

/-- Whom a beat calls, and of which hearts: new hearts come before failed ones, in the order
in which the round names them, and handlers in the order of their registration. -/
def errands (world : MonitorWorld η ρ α) : List (Bool × String × η) :=
  (world.rest.monitor.liveness.closeRound.1.newHearts.flatMap fun heart =>
      world.rest.monitor.onNew.map fun handler => (false, heart, handler)) ++
    world.rest.monitor.liveness.closeRound.1.failures.flatMap fun heart =>
      world.rest.monitor.onFailure.map fun handler => (true, heart, handler)

/-- A beat whose calls are over: the handlers that the monitor had are put in front of
those that were registered, and the ping is sent. -/
def conclude (before last : MonitorWorld η ρ α) : MonitorWorld η ρ α :=
  sendPing (modifyMonitor last fun m =>
    m.withEarlierHandlers before.rest.monitor.onNew before.rest.monitor.onFailure)

theorem exists_beat (plan : Plan η ρ α) (again : α) (world : MonitorWorld η ρ α) :
    ∃ calls last, Tells plan (rolled again world) calls last ∧
      beat (heed plan) again world = conclude world last ∧
      calls.map Call.subject = errands world := by
  rcases exists_announceNew plan world.rest.monitor.onNew
    world.rest.monitor.liveness.closeRound.1.newHearts (rolled again world) with
    ⟨welcomes, welcomed, newSubjects⟩
  rcases exists_announceFailures plan world.rest.monitor.onFailure
    world.rest.monitor.liveness.closeRound.1.failures _ with ⟨farewells, told, failedSubjects⟩
  refine ⟨welcomes ++ farewells, _, welcomed.append told, rfl, ?_⟩
  rw [List.map_append, newSubjects, failedSubjects, errands]

/-- A heart that is reported as new is alive, and one that is reported as failed is not. -/
theorem isAlive_closeRound {l : Liveness} {heart : String} :
    (heart ∈ l.closeRound.1.newHearts → l.closeRound.2.isAlive heart = true) ∧
      (heart ∈ l.closeRound.1.failures → l.closeRound.2.isAlive heart = false) := by
  have alive : l.closeRound.2.isAlive heart = true ↔ heart ∈ l.closeRound.2.alive :=
    Std.ExtTreeSet.contains_iff_mem
  rw [← Bool.not_eq_true, alive, Liveness.mem_alive_closeRound, Liveness.mem_newHearts_closeRound,
    Liveness.mem_failures_closeRound, Liveness.mem_failing, Liveness.mem_missed]
  tauto

/-- What it means that a beat calls its handlers, each once for each heart that the round
tells of. -/
structure Notifies (plan : Plan η ρ α) (again : α) (before : MonitorWorld η ρ α)
    (calls : List (Call η ρ α)) (after : MonitorWorld η ρ α) : Prop where
  /-- The calls are what happens between the closing of the round and the ping. -/
  tells : ∃ last, Tells plan (rolled again before) calls last ∧ after = conclude before last
  subjects : calls.map Call.subject = errands before
  ascending : before.rest.monitor.liveness.closeRound.1.newHearts.Pairwise (· < ·) ∧
    before.rest.monitor.liveness.closeRound.1.failures.Pairwise (· < ·)
  alive : ∀ call ∈ calls, call.world.rest.monitor.isAlive call.heart = !call.failed
  /-- One timer of a next beat is set, besides those that the handlers set. -/
  timers : (after.timers.entries.map TimerEntry.task).Perm
    (before.timers.entries.map TimerEntry.task ++
      (nextBeat before, again) :: calls.flatMap (Call.sets plan))
  /-- It was set first, so it has its turn before others that are due in its instant. -/
  precedes : ∀ set ∈ calls.flatMap (Call.sets plan),
    (nextBeat before).deadline ≤ set.1.deadline → (nextBeat before).Precedes set.1
  /-- It is still to run if no handler has its handle. -/
  armed : (∀ call ∈ calls, ∀ deed ∈ call.deeds plan,
      ¬ deed.plain.Cancels (nextBeat before).ticket) →
    after.timers.isActive (nextBeat before) = true
  onNew : after.rest.monitor.onNew =
    before.rest.monitor.onNew ++ calls.flatMap (Call.onNew plan)
  onFailure : after.rest.monitor.onFailure =
    before.rest.monitor.onFailure ++ calls.flatMap (Call.onFailure plan)
  /-- No ping is sent until all handlers have been called. -/
  silent : ∀ call ∈ calls, (call.after plan).rest.pings = before.rest.pings
  pings : after.rest.pings =
    before.rest.pings ++ [(before.rest.monitor.roll before.now).2.currentPing]
  stamp : after.rest.monitor.currentPing = (before.rest.monitor.roll before.now).2.currentPing

namespace Tells

/-- Handlers are told of hearts as the monitor judges them in that moment. -/
theorem isAlive_of_subjects (tells : Tells plan (rolled again world) calls last)
    (subjects : calls.map Call.subject = errands world) (called : call ∈ calls) :
    call.world.rest.monitor.isAlive call.heart = !call.failed := by
  rcases List.append_of_mem called with ⟨earlier, later, rfl⟩
  rw [tells.split.1.grows.alive]
  change world.rest.monitor.liveness.closeRound.2.isAlive call.heart = _
  have subject := List.mem_map_of_mem (f := Call.subject) called
  rw [subjects, errands, List.mem_append, List.mem_flatMap, List.mem_flatMap] at subject
  rcases subject with ⟨heart, new, told⟩ | ⟨heart, failed, told⟩
  · rcases List.mem_map.mp told with ⟨handler, _, same⟩
    rw [← show false = call.failed from congrArg Prod.fst same,
      ← show heart = call.heart from congrArg (fun subject => subject.2.1) same]
    exact isAlive_closeRound.1 new
  · rcases List.mem_map.mp told with ⟨handler, _, same⟩
    rw [← show true = call.failed from congrArg Prod.fst same,
      ← show heart = call.heart from congrArg (fun subject => subject.2.1) same]
    exact isAlive_closeRound.2 failed

/-- The handlers that were registered in the calls stand behind those of the monitor. -/
theorem handlers_conclude (tells : Tells plan (rolled again world) calls last) :
    (conclude world last).rest.monitor.onNew =
        world.rest.monitor.onNew ++ calls.flatMap (Call.onNew plan) ∧
      (conclude world last).rest.monitor.onFailure =
        world.rest.monitor.onFailure ++ calls.flatMap (Call.onFailure plan) :=
  ⟨congrArg (world.rest.monitor.onNew ++ ·) tells.grows.onNew,
    congrArg (world.rest.monitor.onFailure ++ ·) tells.grows.onFailure⟩

/-- The timer of the next beat is set before any handler is called. -/
theorem tasks_rolled (tells : Tells plan (rolled again world) calls last) :
    (last.timers.entries.map TimerEntry.task).Perm
      (world.timers.entries.map TimerEntry.task ++
        (nextBeat world, again) :: calls.flatMap (Call.sets plan)) := by
  have placed : ((rolled again world).timers.entries.map TimerEntry.task).Perm
      ((nextBeat world, again) :: world.timers.entries.map TimerEntry.task) :=
    (Timers.place_perm _ world.timers.entries).map TimerEntry.task
  refine tells.tasks.trans ((placed.append_right _).trans ?_)
  exact List.perm_middle.symm

theorem isActive_nextBeat (tells : Tells plan (rolled again world) calls last)
    (spared : ∀ call ∈ calls, ∀ deed ∈ call.deeds plan,
      ¬ deed.plain.Cancels (nextBeat world).ticket) :
    last.timers.isActive (nextBeat world) = true := by
  let entry : TimerEntry α :=
    ⟨(nextBeat world).deadline, (nextBeat world).ticket, true, again⟩
  have old : entry ∈ (rolled again world).timers.upTo (nextBeat world).ticket :=
    Timers.mem_upTo.mpr ⟨Timers.mem_place.mpr (Or.inl rfl), Nat.le_refl _⟩
  have still := tells.upTo (Nat.le_refl (nextBeat world).ticket)
  have member := List.mem_map_of_mem (f := fun entry : TimerEntry α =>
    entry.afterAll (calls.flatMap fun call => (call.deeds plan).map Deed.plain)) old
  rw [← still, TimerEntry.afterAll_of_spared] at member
  · exact List.any_eq_true.mpr ⟨entry, (Timers.mem_upTo.mp member).1, by simp [entry]⟩
  · intro deed done
    rcases List.mem_flatMap.mp done with ⟨call, called, done⟩
    rcases List.mem_map.mp done with ⟨own, planned, rfl⟩
    exact spared call called own planned

end Tells

/-- Every beat calls the handlers that were registered before it, and only these, each once
for each heart concerned; the timer of the next beat is set before, the ping is sent after;
and the handlers that are registered meanwhile come to stand behind the others. -/
theorem notifies_beat (plan : Plan η ρ α) (again : α) (world : MonitorWorld η ρ α) :
    ∃ calls, Notifies plan again world calls (beat (heed plan) again world) := by
  rcases exists_beat plan again world with ⟨calls, last, tells, ended, subjects⟩
  refine ⟨calls, ?_⟩
  rw [ended]
  have grows := tells.grows
  have stamp : last.rest.monitor.currentPing =
      (world.rest.monitor.roll world.now).2.currentPing :=
    congrArg (fun clock : PingClock => clock.text clock.current) grows.clock
  constructor
  case tells => exact ⟨last, tells, rfl⟩
  case subjects => exact subjects
  case ascending => exact ⟨Liveness.ascending_toList _, Liveness.ascending_toList _⟩
  case alive => exact fun call called => tells.isAlive_of_subjects subjects called
  case timers => exact tells.tasks_rolled
  case precedes =>
    intro set member late
    exact .of_le late (tells.lt_of_set set member)
  case armed => exact tells.isActive_nextBeat
  case onNew => exact tells.handlers_conclude.1
  case onFailure => exact tells.handlers_conclude.2
  case silent =>
    intro call called
    rcases List.append_of_mem called with ⟨earlier, later, rfl⟩
    exact (call.grows plan).pings.trans tells.split.1.grows.pings
  case pings => exact congr (congrArg HAppend.hAppend grows.pings) (congrArg List.singleton stamp)
  case stamp => exact stamp

/-- Handlers that have others registered, and one that sets a timer for the instant of the
next beat. -/
def busyHandlers : Plan Nat Unit Nat
  | 0, _, _ => [.watchNew 10, .watchFailure 11, .elapse 5]
  | 1, _, world => [.scheduleAt (world.rest.monitor.clock.current + world.rest.monitor.interval) 1]
  | 2, _, _ => [.watchFailure 12, .watchNew 13]
  | _, _, _ => []

/-- A monitor with two handlers of new hearts and one of failed hearts.  Two hearts have
answered, and one is about to miss its second round. -/
def busyMonitor : MonitorWorld Nat Unit Nat where
  now := 20
  timers := {}
  rest := {
    monitor := {
      interval := 10
      clock := { current := 10, previous := 0, moved := 10 }
      liveness := (Liveness.afterRounds [["a"], []]).recordAll ["c", "b"]
      onNew := [0, 1]
      onFailure := [2] }
    owner := () }

theorem notifies_busyMonitor :
    let after := beat (heed busyHandlers) 0 busyMonitor
    errands busyMonitor =
        [(false, "b", 0), (false, "b", 1), (false, "c", 0), (false, "c", 1), (true, "a", 2)] ∧
      after.rest.monitor.onNew = [0, 1, 10, 10, 13] ∧
      after.rest.monitor.onFailure = [2, 11, 11, 12] ∧
      after.timers.entries.map TimerEntry.task = [(⟨1, 30⟩, 0), (⟨2, 30⟩, 1), (⟨3, 30⟩, 1)] ∧
      ∃ calls, Notifies busyHandlers 0 busyMonitor calls after := by
  intro after
  refine ⟨by decide +kernel, by decide +kernel, by decide +kernel, by decide +kernel, ?_⟩
  exact notifies_beat busyHandlers 0 busyMonitor

/-! ## Histories -/

/-- Whatever happens to a monitor, no handler is lost, and none changes its place. -/
theorem handlers_course (plan : Plan η ρ α) (again : α) (world : MonitorWorld η ρ α)
    (history : List Event) :
    world.rest.monitor.onNew <+: (course (heed plan) again world history).rest.monitor.onNew ∧
      world.rest.monitor.onFailure <+:
        (course (heed plan) again world history).rest.monitor.onFailure := by
  induction history generalizing world with
  | nil => exact ⟨List.prefix_refl _, List.prefix_refl _⟩
  | cons event history inductionHypothesis =>
      have step : world.rest.monitor.onNew <+:
            (react (heed plan) again world event).rest.monitor.onNew ∧
          world.rest.monitor.onFailure <+:
            (react (heed plan) again world event).rest.monitor.onFailure := by
        cases event with
        | pong message =>
            have grows := grows_echo world message
            exact ⟨⟨[], grows.onNew.symm⟩, ⟨[], grows.onFailure.symm⟩⟩
        | beat wait =>
            rcases exists_beat plan again (world.elapse wait) with ⟨calls, last, tells, ended, _⟩
            rw [react, ended]
            exact ⟨⟨_, tells.handlers_conclude.1.symm⟩, ⟨_, tells.handlers_conclude.2.symm⟩⟩
      rcases inductionHypothesis (react (heed plan) again world event) with ⟨onNew, onFailure⟩
      exact ⟨step.1.trans onNew, step.2.trans onFailure⟩

end ClusterHub.MonitorWorld
