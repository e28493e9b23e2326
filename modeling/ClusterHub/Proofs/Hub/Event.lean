import ClusterHub.Hub.Traffic
import ClusterHub.Proofs.Timer.Running

/-!
# Events and histories

What happens to a hub is one event after another: a message comes in, a beat is
made, a timer has its turn, time goes by, or what the hub has put up is sent
out.  A history is any list of events.  Nothing is said of when they come or in
which order the timers have their turns, so the histories include all those
that a loop brings about.
-/

namespace ClusterHub.Hub

/-- Something that happens to a hub. -/
inductive Event
  | query (message : Message)
  | traffic (message : Message)
  | pong (message : Message)
  | beat
  /-- The timer at a position of the queue has its turn. -/
  | timer (position : Nat)
  | elapse (d : Duration)
  /-- What the hub has put up is sent out. -/
  | flush

/-- The query by which an engine asks to join. -/
def Event.registration (identity : Frame) (registration : Registration) : Event :=
  .query ((Message.query .registration registration).pushFront identity)

/-- The query by which an engine asks to leave. -/
def Event.unregistration (identity : Frame) (queue : String) : Event :=
  .query ((Message.query .unregistration (⟨queue⟩ : Unregistration)).pushFront identity)

/-- The echo of a ping by a heart. -/
def Event.echo (heart ping : String) : Event :=
  .pong ((Message.empty.pushText heart).pushText ping)

/-- Take the entry at a position off the queue, and carry out its action unless
it was cancelled. -/
def fire (hub : Hub) (position : Nat) : Hub :=
  match hub.timers.entries[position]? with
  | none => hub
  | some entry =>
      let hub := { hub with timers := hub.timers.dropAt position }
      if entry.active then runAlarm entry.action hub else hub

/-- Take out what the hub has put up to be sent. -/
def flush (hub : Hub) : Hub :=
  hub.modifyRest fun state => { state with pings := [], owner.outbox := [] }

/-- The hub after an event. -/
def react (hub : Hub) : Event → Hub
  | .query message => hub.dispatchQuery message
  | .traffic message => hub.dispatchTraffic message
  | .pong message => hub.dispatchPong message
  | .beat => hub.beat
  | .timer position => hub.fire position
  | .elapse d => hub.elapse d
  | .flush => hub.flush

/-- The hub after a history. -/
def run (hub : Hub) (history : List Event) : Hub := history.foldl react hub

@[simp]
theorem run_nil (hub : Hub) : hub.run [] = hub := rfl

@[simp]
theorem run_cons (hub : Hub) (event : Event) (history : List Event) :
    hub.run (event :: history) = (hub.react event).run history := rfl

theorem run_append (hub : Hub) (past future : List Event) :
    hub.run (past ++ future) = (hub.run past).run future :=
  List.foldl_append

/-! ## What happens in a history -/

/-- Whether an event of a history is of some kind, given the hub that it finds. -/
def happens (hub : Hub) (kind : Hub → Event → Prop) (history : List Event) : Prop :=
  ∃ past event future, history = past ++ event :: future ∧ kind (hub.run past) event

theorem not_happens_nil (hub : Hub) (kind : Hub → Event → Prop) : ¬ hub.happens kind [] := by
  rintro ⟨past, event, future, split, _⟩
  cases past <;> contradiction

theorem happens_cons (hub : Hub) (kind : Hub → Event → Prop) (event : Event)
    (history : List Event) :
    hub.happens kind (event :: history) ↔
      kind hub event ∨ (hub.react event).happens kind history := by
  constructor
  · rintro ⟨past, other, future, split, happened⟩
    cases past with
    | nil =>
        cases split
        exact Or.inl happened
    | cons first rest =>
        cases split
        exact Or.inr ⟨rest, other, future, rfl, happened⟩
  · rintro (happened | ⟨past, other, future, rfl, happened⟩)
    · exact ⟨[], event, history, rfl, happened⟩
    · exact ⟨event :: past, other, future, rfl, happened⟩

theorem happens_mono {hub : Hub} {kind other : Hub → Event → Prop} {history : List Event}
    (weaker : ∀ hub event, kind hub event → other hub event) (happened : hub.happens kind history) :
    hub.happens other history := by
  rcases happened with ⟨past, event, future, split, happened⟩
  exact ⟨past, event, future, split, weaker _ _ happened⟩

/-- A hub that nobody has registered with, attached to its loop: its first beat
comes after one interval. -/
def attached (config : Config) (engineAddresses : EngineAddresses)
    (clientAddresses : ClientAddresses) (now : Instant) : Hub :=
  ((start config engineAddresses clientAddresses now).assignDuty config.heartbeat .beat).2

/-- Whether a hub was attached to its loop and nothing has happened since. -/
def IsAttached (hub : Hub) : Prop :=
  ∃ config engineAddresses clientAddresses now,
    hub = attached config engineAddresses clientAddresses now

/-- Whether a number is given out in an event, that is, a registration succeeds. -/
def admits (hub : Hub) (event : Event) : Bool :=
  (hub.react event).registry.nextId ≠ hub.registry.nextId

/-- How many registrations succeed in a history. -/
def admissions (hub : Hub) : List Event → Nat
  | [] => 0
  | event :: history => (hub.admits event).toNat + (hub.react event).admissions history

theorem admissions_cons (hub : Hub) (event : Event) (history : List Event) :
    hub.admissions (event :: history) =
      (hub.admits event).toNat + (hub.react event).admissions history := rfl

theorem admissions_append (hub : Hub) (past future : List Event) :
    hub.admissions (past ++ future) = hub.admissions past + (hub.run past).admissions future := by
  induction past generalizing hub with
  | nil => simp [admissions]
  | cons event past inductionHypothesis =>
      simp only [List.cons_append, admissions_cons, inductionHypothesis, run_cons]
      omega

/-! ## Runs -/

/-- Whether the count of engines overflows in an event: a registration succeeds, and
there is no number left to count on to. -/
def overflows (hub : Hub) (event : Event) : Bool :=
  hub.admits event && hub.registry.isSpent

/-- The hub after an event, if the event comes to an end.  An overflow of the count of
engines is an error, by which the hub goes down in the middle of the event.  There is no
hub after it, and `react` only says what would be if numbers went round. -/
def react? (hub : Hub) (event : Event) : Option Hub :=
  if hub.overflows event then none else some (hub.react event)

/-- The hub after a history, if it did not go down. -/
def run? (hub : Hub) (history : List Event) : Option Hub := history.foldlM react? hub

@[simp]
theorem run?_nil (hub : Hub) : hub.run? [] = some hub := rfl

end ClusterHub.Hub
