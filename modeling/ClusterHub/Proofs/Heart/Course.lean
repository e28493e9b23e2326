import ClusterHub.Heart.Beat

/-!
# What happens to a monitor

A monitor takes in messages and makes beats, with some time before each.  What
its handlers do is left open, as long as they leave the judging of hearts to
the monitor: then a beat closes one round, and sends one ping that carries the
time to which the clock of pings has moved on.
-/

namespace ClusterHub.MonitorWorld

variable {η ρ α : Type}

/-- Something that happens to a monitor. -/
inductive Event
  | pong (message : Message)
  /-- A beat is made after some time. -/
  | beat (wait : Duration)

/-- Whether an event is a beat. -/
def Event.isBeat : Event → Bool
  | .beat _ => true
  | .pong _ => false

/-- The world of a monitor after an event.  `run` carries out a handler, and
`again` is the timer action that makes the next beat. -/
def react (run : η → String → MonitorWorld η ρ α → MonitorWorld η ρ α) (again : α)
    (world : MonitorWorld η ρ α) : Event → MonitorWorld η ρ α
  | .pong message => modifyMonitor world fun m => m.handlePong message
  | .beat wait => beat run again (world.elapse wait)

/-- The world of a monitor after a history. -/
def course (run : η → String → MonitorWorld η ρ α → MonitorWorld η ρ α) (again : α)
    (world : MonitorWorld η ρ α) (history : List Event) : MonitorWorld η ρ α :=
  history.foldl (react run again) world

/-- What handlers leave alone: the clock of pings, the judgement of hearts, and
what was sent.  Time does not go back. -/
structure Spares (before after : MonitorWorld η ρ α) : Prop where
  pingClock : after.rest.monitor.clock = before.rest.monitor.clock
  liveness : after.rest.monitor.liveness = before.rest.monitor.liveness
  pings : after.rest.pings = before.rest.pings
  clock : before.now ≤ after.now

/-- Handlers that leave the judging of hearts to the monitor. -/
def Modest (run : η → String → MonitorWorld η ρ α → MonitorWorld η ρ α) : Prop :=
  ∀ handler heart world, Spares world (run handler heart world)

/-- The instants at which the beats of a history are made. -/
def beatTimes (run : η → String → MonitorWorld η ρ α → MonitorWorld η ρ α) (again : α)
    (world : MonitorWorld η ρ α) : List Event → List Instant
  | [] => []
  | .pong message :: history =>
      beatTimes run again (react run again world (.pong message)) history
  | .beat wait :: history =>
      (world.elapse wait).now :: beatTimes run again (react run again world (.beat wait)) history

variable {run : η → String → MonitorWorld η ρ α → MonitorWorld η ρ α} {again : α}
  {world middle after : MonitorWorld η ρ α} {past future : List Event}

theorem course_append :
    course run again world (past ++ future) =
      course run again (course run again world past) future :=
  List.foldl_append

theorem course_concat {event : Event} :
    course run again world (past ++ [event]) =
      react run again (course run again world past) event :=
  course_append

theorem Spares.refl (world : MonitorWorld η ρ α) : Spares world world :=
  ⟨rfl, rfl, rfl, Int.le_refl _⟩

theorem Spares.trans (first : Spares world middle) (second : Spares middle after) :
    Spares world after where
  pingClock := second.pingClock.trans first.pingClock
  liveness := second.liveness.trans first.liveness
  pings := second.pings.trans first.pings
  clock := Int.le_trans first.clock second.clock

/-- Steps that spare, one after the other, spare. -/
theorem spares_foldl {κ : Type} {step : MonitorWorld η ρ α → κ → MonitorWorld η ρ α}
    (spares : ∀ world item, Spares world (step world item)) (items : List κ)
    (world : MonitorWorld η ρ α) : Spares world (items.foldl step world) := by
  induction items generalizing world with
  | nil => exact .refl world
  | cons item rest inductionHypothesis =>
      exact (spares world item).trans (inductionHypothesis (step world item))

theorem spares_callEach (modest : Modest run) (handlers : List η) (heart : String)
    (world : MonitorWorld η ρ α) : Spares world (callEach run handlers heart world) :=
  spares_foldl (fun world handler => modest handler heart world) handlers world

theorem spares_announceNew (modest : Modest run) (handlers : List η) (hearts : List String)
    (world : MonitorWorld η ρ α) : Spares world (announceNew run handlers hearts world) :=
  spares_foldl (fun world heart => spares_callEach modest handlers heart world) hearts world

theorem spares_announceFailures (modest : Modest run) (handlers : List η) (hearts : List String)
    (world : MonitorWorld η ρ α) : Spares world (announceFailures run handlers hearts world) := by
  refine spares_foldl (fun world heart => ?_) hearts world
  have counted : Spares world (modifyMonitor world Monitor.countFailure) :=
    ⟨rfl, rfl, rfl, Int.le_refl _⟩
  exact counted.trans (spares_callEach modest handlers heart _)

/-! ## Beats -/

/-- What a beat comes to. -/
structure Beats (before after : MonitorWorld η ρ α) : Prop where
  pingClock : after.rest.monitor.clock = before.rest.monitor.clock.tick before.now
  liveness : after.rest.monitor.liveness = before.rest.monitor.liveness.closeRound.2
  pings : after.rest.pings = before.rest.pings ++ [after.rest.monitor.currentPing]
  clock : before.now ≤ after.now

/-- The world in which the round is closed and the handlers are still to be
told. -/
def rolled (again : α) (world : MonitorWorld η ρ α) : MonitorWorld η ρ α :=
  modifyMonitor (world.scheduleFor world.rest.monitor.interval again) fun _ =>
    (world.rest.monitor.roll world.now).2.withoutHandlers

theorem beats_beat (modest : Modest run) (again : α) (world : MonitorWorld η ρ α) :
    Beats world (beat run again world) := by
  have welcomed := spares_announceNew modest (world.rest.monitor.roll world.now).2.onNew
    (world.rest.monitor.roll world.now).1.newHearts (rolled again world)
  have told := welcomed.trans (spares_announceFailures modest
    (world.rest.monitor.roll world.now).2.onFailure
    (world.rest.monitor.roll world.now).1.failures _)
  constructor
  case pingClock => exact told.pingClock
  case liveness => exact told.liveness
  case pings => exact congrArg (· ++ _) told.pings
  case clock => exact told.clock

end ClusterHub.MonitorWorld
