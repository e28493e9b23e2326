import ClusterHub.Proofs.Reactor.Log

/-!
# Bounded runs

A run with a limit sets a timer, its deadline, which asks the loop to stop.  Callbacks do
not have the handle of that timer, and do not take requests back.  So the run goes no
further than its limit, whatever else the callbacks do; and as it takes its deadline and all
requests with it when it ends, it has no part in how later runs end.
-/

namespace ClusterHub.Reactor

variable {σ ε α : Type}

namespace Scene

variable {before middle after scene : Scene σ α}

/-- One thing that a callback may do.  The handles of deadlines stay with the runs that set
them, and requests to stop are taken back by the loop alone. -/
inductive Acts : Scene σ α → Scene σ α → Prop
  | network (scene : Scene σ α) (change : Network → Network) :
      Acts scene (scene.modifyNetwork change)
  | state (scene : Scene σ α) (change : σ → σ) : Acts scene (scene.modifyState change)
  | requestStop (scene : Scene σ α) : Acts scene scene.requestStop
  /-- A timer may be set for any instant, be it over or not. -/
  | schedule (scene : Scene σ α) (deadline : Instant) (action : α) :
      Acts scene { scene with timers := (scene.timers.scheduleAt deadline (.own action)).2 }
  | cancel (scene : Scene σ α) (handle : TimerHandle)
      (spares : ∀ entry ∈ scene.timers.running, entry.action = .deadline →
        entry.ticket ≠ handle.ticket) :
      Acts scene (scene.cancel handle)

/-- All that a callback may do, one thing after another. -/
def Works : Scene σ α → Scene σ α → Prop := Relation.ReflTransGen Acts

/-- What callbacks leave alone: the clock, the order of the queue, the deadlines of runs and
the requests to stop that there are. -/
structure Respects (before after : Scene σ α) : Prop where
  now : after.now = before.now
  ordered : before.timers.Ordered → after.timers.Ordered
  running : ∀ entry, entry.action = .deadline →
    (entry ∈ after.timers.running ↔ entry ∈ before.timers.running)
  requested : before.rest.signal.requested = true → after.rest.signal.requested = true

theorem Respects.refl (scene : Scene σ α) : Respects scene scene where
  now := rfl
  ordered := id
  running _ _ := Iff.rfl
  requested := id

theorem Respects.trans (first : Respects before middle) (second : Respects middle after) :
    Respects before after where
  now := second.now.trans first.now
  ordered ordered := second.ordered (first.ordered ordered)
  running entry isDeadline :=
    (second.running entry isDeadline).trans (first.running entry isDeadline)
  requested asked := second.requested (first.requested asked)

theorem Acts.respects (acts : Acts before after) : Respects before after := by
  cases acts with
  | network change => exact ⟨rfl, id, fun _ _ => Iff.rfl, id⟩
  | state change => exact ⟨rfl, id, fun _ _ => Iff.rfl, id⟩
  | requestStop => exact ⟨rfl, id, fun _ _ => Iff.rfl, fun _ => rfl⟩
  | schedule deadline action =>
      constructor
      case now => rfl
      case ordered => exact fun ordered => ordered.scheduleAt deadline (.own action)
      case running =>
        intro entry isDeadline
        apply Timers.mem_running_scheduleAt.trans
        apply or_iff_right
        rintro rfl
        contradiction
      case requested => exact id
  | cancel handle spares =>
      constructor
      case now => rfl
      case ordered => exact fun ordered => ordered.cancel handle
      case running =>
        intro entry isDeadline
        apply Timers.mem_running_cancel.trans
        exact and_iff_left_of_imp fun member => spares entry member isDeadline
      case requested => exact id

theorem Works.respects (works : Works before after) : Respects before after := by
  induction works with
  | refl => exact .refl before
  | tail _ acts inductionHypothesis => exact inductionHypothesis.trans acts.respects

end Scene

/-- The callbacks of a loop do what callbacks may do. -/
structure Handlers.Restrained (handlers : Handlers σ ε α) : Prop where
  message : ∀ action message scene, Scene.Works scene (handlers.message action message scene)
  timer : ∀ action scene, Scene.Works scene (handlers.timer action scene)

theorem Handlers.Restrained.still {handlers : Handlers σ ε α} (restrained : handlers.Restrained) :
    handlers.Still where
  message action message scene := (restrained.message action message scene).respects.now
  timer action scene := (restrained.timer action scene).respects.now

/-- Whether a moment can be one of an iteration: the owner has no part in those, and a loop
that was asked to stop does not wait. -/
def Moment.IsInner (moment : Moment σ ε α) : Prop :=
  match moment.deed with
  | .wait _ => moment.before.rest.signal.requested = false
  | .manage => False
  | _ => True

section Inner

variable (handlers : Handlers σ ε α)

theorem isInner_readLog (endpoints : List (Endpoint ε)) (scene : Scene σ α) :
    ∀ moment ∈ readLog handlers endpoints scene, moment.IsInner := by
  induction endpoints generalizing scene with
  | nil => exact List.forall_mem_nil _
  | cons endpoint endpoints inductionHypothesis =>
      unfold readLog
      split
      · exact inductionHypothesis scene
      · split
        · exact List.forall_mem_cons.mpr ⟨trivial, inductionHypothesis _⟩
        · exact inductionHypothesis scene
        · exact inductionHypothesis scene

theorem isInner_passLog (due : Instant) (horizon fuel : Nat) (scene : Scene σ α) :
    ∀ moment ∈ passLog handlers due horizon fuel scene, moment.IsInner := by
  induction fuel generalizing scene with
  | zero => exact List.forall_mem_nil _
  | succ fuel inductionHypothesis =>
      unfold passLog
      split
      · exact List.forall_mem_nil _
      · split
        · split
          · exact List.forall_mem_cons.mpr ⟨trivial, inductionHypothesis _⟩
          · exact List.forall_mem_cons.mpr ⟨trivial, inductionHypothesis _⟩
        · exact List.forall_mem_nil _

theorem isInner_dispatchLog (reactor : Reactor σ ε α) :
    ∀ moment ∈ dispatchLog handlers reactor, moment.IsInner :=
  List.forall_mem_append.mpr
    ⟨isInner_readLog handlers _ _, isInner_passLog handlers _ _ _ _⟩

theorem isInner_pollLog (timeout : Option Duration) (reactor : Reactor σ ε α) :
    ∀ moment ∈ pollLog handlers timeout reactor, moment.IsInner := by
  unfold pollLog
  split
  · exact List.forall_mem_nil _
  · next unasked =>
      split
      · exact isInner_dispatchLog handlers reactor
      · split
        · exact List.forall_mem_nil _
        · exact List.forall_mem_cons.mpr
            ⟨eq_false_of_ne_true unasked, isInner_dispatchLog handlers _⟩

end Inner

variable {handlers : Handlers σ ε α} {moment : Moment σ ε α} {log : List (Moment σ ε α)}
  {before after scene : Scene σ α} {reactor next start ended : Reactor σ ε α}
  {timeout : Option Duration} {limit : Duration} {handle : TimerHandle} {fuel : Nat}

/-- An iteration keeps what its moments keep. -/
theorem keeps_poll {holds : Scene σ α → Prop} (restrained : handlers.Restrained)
    (keeps : ∀ moment ∈ pollLog handlers timeout reactor, Lawful handlers moment →
      moment.IsInner → holds moment.before → holds moment.after)
    (start : holds reactor.scene) :
    (∀ moment ∈ pollLog handlers timeout reactor, Lawful handlers moment ∧ holds moment.before) ∧
      holds (poll handlers timeout reactor).2.scene :=
  (trace_pollLog restrained.still timeout reactor).throughout
    (fun moment member lawful =>
      keeps moment member lawful (isInner_pollLog handlers timeout reactor moment member))
    start

/-- Only a loop that was asked to stop reports that it has stopped. -/
theorem requested_of_stopped (polls : poll handlers timeout reactor = (.stopped, next)) :
    next.scene.rest.signal.requested = true := by
  unfold poll at polls
  split at polls
  · next asked =>
      cases polls
      exact asked
  · split at polls
    · cases polls
    · split at polls
      · cases polls
      · cases polls

/-- A run that comes back keeps what the moments of its iterations keep, up to where it takes
back the requests that have stopped it. -/
theorem keeps_runWithin {holds : Scene σ α → Prop} (restrained : handlers.Restrained)
    (keeps : ∀ moment ∈ runLog handlers fuel reactor, Lawful handlers moment →
      moment.IsInner → holds moment.before → holds moment.after)
    (start : holds reactor.scene) (ran : runWithin handlers fuel reactor = some ended) :
    (∀ moment ∈ runLog handlers fuel reactor, Lawful handlers moment ∧ holds moment.before) ∧
      ∃ last : Reactor σ ε α, ended = last.resetSignal ∧
        last.scene.rest.signal.requested = true ∧ holds last.scene := by
  induction fuel generalizing reactor with
  | zero => contradiction
  | succ fuel inductionHypothesis =>
      unfold runLog at keeps ⊢
      rcases List.forall_mem_append.mp keeps with ⟨keepsPoll, keepsRest⟩
      rcases keeps_poll restrained keepsPoll start with ⟨polled, reached⟩
      unfold runWithin at ran
      rcases polls : poll handlers none reactor with ⟨outcome, next⟩
      rw [polls] at ran reached keepsRest
      cases outcome with
      | ran messages timers =>
          rcases inductionHypothesis keepsRest reached ran with ⟨rest, last⟩
          exact ⟨List.forall_mem_append.mpr ⟨polled, rest⟩, last⟩
      | stopped =>
          cases ran
          have lawful : Lawful handlers _ :=
            .manage next.scene next.resetSignal.scene
              (.single (.change next.scene fun rest => { rest with signal := rest.signal.reset }))
          refine ⟨List.forall_mem_append.mpr ⟨polled, ?_⟩, next, rfl, ?_, reached⟩
          · exact List.forall_mem_singleton.mpr ⟨lawful, reached⟩
          · exact requested_of_stopped polls
      | asleep => contradiction

/-- The timers stand in their order, and none that is still to run is the deadline of a
run. -/
structure Scene.IsIdle (scene : Scene σ α) : Prop where
  ordered : scene.timers.Ordered
  own : ∀ entry ∈ scene.timers.running, entry.action ≠ .deadline

theorem isIdle_ofState (now : Instant) (network : Network) (state : σ) :
    (ofState now network state : Reactor σ ε α).scene.IsIdle where
  ordered := Timers.ordered_empty
  own := List.forall_mem_nil _

namespace Scene.IsIdle

theorem respects (idle : before.IsIdle) (respects : Respects before after) : after.IsIdle where
  ordered := respects.ordered idle.ordered
  own entry member isDeadline :=
    idle.own entry ((respects.running entry isDeadline).mp member) isDeadline

theorem dropFirst (idle : scene.IsIdle) : IsIdle scene.dropFirst where
  ordered := idle.ordered.dropAt 0
  own entry member := idle.own entry (Timers.mem_running_of_dropAt member)

end Scene.IsIdle

theorem Lawful.isIdle (lawful : Lawful handlers moment) (restrained : handlers.Restrained)
    (inner : moment.IsInner) (idle : moment.before.IsIdle) : moment.after.IsIdle := by
  cases lawful with
  | wait scene d short => exact ⟨idle.ordered, idle.own⟩
  | read scene inbox action message network received =>
      have read := (Scene.Acts.network scene fun _ => network).respects
      exact idle.respects (read.trans (restrained.message action message _).respects)
  | run scene entry stands due active =>
      cases alarm : entry.action with
      | deadline =>
          have member := Timers.mem_running.mpr ⟨List.mem_of_getElem? stands, active⟩
          exact absurd alarm (idle.own entry member)
      | own action => exact idle.dropFirst.respects (restrained.timer action _).respects
  | discard scene entry stands cancelled => exact idle.dropFirst
  | manage before after conducts => exact inner.elim

theorem isIdle_poll (restrained : handlers.Restrained) (idle : reactor.scene.IsIdle) :
    (poll handlers timeout reactor).2.scene.IsIdle :=
  (keeps_poll restrained (fun _ _ lawful => lawful.isIdle restrained) idle).2

theorem isIdle_runWithin (restrained : handlers.Restrained) (idle : reactor.scene.IsIdle)
    (ran : runWithin handlers fuel reactor = some ended) : ended.scene.IsIdle := by
  rcases (keeps_runWithin restrained (fun _ _ lawful => lawful.isIdle restrained) idle ran).2 with
    ⟨last, rfl, _, idle⟩
  exact ⟨idle.ordered, idle.own⟩

/-! ## During a bounded run -/

/-- The timer that ends a run, given its handle. -/
def ending (handle : TimerHandle) : TimerEntry (Alarm α) :=
  ⟨handle.deadline, handle.ticket, true, .deadline⟩

/-- What holds during a bounded run: its deadline is the only one, is not over, and is still
to come unless the loop was asked to stop. -/
structure Armed (handle : TimerHandle) (scene : Scene σ α) : Prop where
  ordered : scene.timers.Ordered
  only : ∀ entry ∈ scene.timers.running, entry.action = .deadline → entry = ending handle
  stands : scene.rest.signal.requested = false → ending handle ∈ scene.timers.running
  ahead : scene.now ≤ handle.deadline

namespace Armed

theorem of_schedule (idle : scene.IsIdle) (limit : Duration) :
    Armed (scene.schedule limit .deadline).1 (scene.schedule limit .deadline).2 where
  ordered := idle.ordered.scheduleAt _ _
  only entry member isDeadline := by
    rcases Timers.mem_running_scheduleAt.mp member with rfl | there
    · rfl
    · exact absurd isDeadline (idle.own entry there)
  stands _ := Timers.mem_running_scheduleAt.mpr (Or.inl rfl)
  ahead := Int.le_add_of_nonneg_right (Int.natCast_nonneg limit)

theorem respects (armed : Armed handle before) (respects : Scene.Respects before after) :
    Armed handle after where
  ordered := respects.ordered armed.ordered
  only entry member isDeadline :=
    armed.only entry ((respects.running entry isDeadline).mp member) isDeadline
  stands unasked := by
    apply (respects.running _ rfl).mpr
    apply armed.stands
    apply eq_false_of_ne_true
    intro asked
    rw [respects.requested asked] at unasked
    contradiction
  ahead := by
    rw [respects.now]
    exact armed.ahead

theorem dropFirst {entry : TimerEntry (Alarm α)} (armed : Armed handle scene)
    (stands : scene.timers.entries[0]? = some entry) (different : ending handle ≠ entry) :
    Armed handle scene.dropFirst where
  ordered := armed.ordered.dropAt 0
  only entry member := armed.only entry (Timers.mem_running_of_dropAt member)
  stands unasked := Timers.mem_running_dropFirst stands (armed.stands unasked) different
  ahead := armed.ahead

/-- Once the deadline has come the loop is asked to stop. -/
theorem dropFirst_requestStop (armed : Armed handle scene) :
    Armed handle (Scene.requestStop scene.dropFirst) where
  ordered := armed.ordered.dropAt 0
  only entry member := armed.only entry (Timers.mem_running_of_dropAt member)
  stands := nofun
  ahead := armed.ahead

theorem elapse {d : Duration} (armed : Armed handle scene)
    (unasked : scene.rest.signal.requested = false)
    (short : ∀ next, scene.timers.nextWait scene.now = some next → d ≤ next) :
    Armed handle (scene.elapse d) where
  ordered := armed.ordered
  only := armed.only
  stands := armed.stands
  ahead :=
    have member := (Timers.mem_running.mp (armed.stands unasked)).1
    World.elapse_le armed.ordered short member armed.ahead

end Armed

theorem Lawful.armed (lawful : Lawful handlers moment) (restrained : handlers.Restrained)
    (inner : moment.IsInner) (armed : Armed handle moment.before) : Armed handle moment.after := by
  cases lawful with
  | wait scene d short => exact armed.elapse inner short
  | read scene inbox action message network received =>
      have read := (Scene.Acts.network scene fun _ => network).respects
      exact armed.respects (read.trans (restrained.message action message _).respects)
  | run scene entry stands due active =>
      cases alarm : entry.action with
      | deadline =>
          exact armed.dropFirst_requestStop
      | own action =>
          have different : ending handle ≠ entry := by
            rintro rfl
            contradiction
          exact (armed.dropFirst stands different).respects (restrained.timer action _).respects
  | discard scene entry stands cancelled =>
      refine armed.dropFirst stands ?_
      rintro rfl
      contradiction
  | manage before after conducts => exact inner.elim

/-- Whether something is done by a callback. -/
def Deed.IsCallback : Deed ε α → Prop
  | .read .. => True
  | .run entry => entry.action ≠ .deadline
  | _ => False

/-- Whether a callback asks the loop to stop. -/
structure Moment.Asks (moment : Moment σ ε α) : Prop where
  isCallback : moment.deed.IsCallback
  before : moment.before.rest.signal.requested = false
  after : moment.after.rest.signal.requested = true

theorem Moment.requested_before (quiet : ¬ moment.Asks) (isCallback : moment.deed.IsCallback)
    (after : moment.after.rest.signal.requested = true) :
    moment.before.rest.signal.requested = true :=
  Decidable.byContradiction fun before => quiet ⟨isCallback, eq_false_of_ne_true before, after⟩

/-- What holds during a bounded run in which no callback asks the loop to stop. -/
structure Unasked (handle : TimerHandle) (scene : Scene σ α) : Prop extends Armed handle scene where
  expired : scene.rest.signal.requested = true → handle.deadline ≤ scene.now

theorem Lawful.unasked (lawful : Lawful handlers moment) (restrained : handlers.Restrained)
    (inner : moment.IsInner) (quiet : ¬ moment.Asks) (unasked : Unasked handle moment.before) :
    Unasked handle moment.after where
  toArmed := lawful.armed restrained inner unasked.toArmed
  expired asked := by
    cases lawful with
    | wait scene d short =>
        have before : scene.rest.signal.requested = false := inner
        exact absurd asked (ne_true_of_eq_false before)
    | read scene inbox action message network received =>
        have still := restrained.still.message action message
          (Scene.modifyNetwork scene fun _ => network)
        refine Int.le_trans ?_ (Int.le_of_eq still.symm)
        exact unasked.expired (Moment.requested_before quiet trivial asked)
    | run scene entry stands due active =>
        have still := restrained.still.now_runAlarm entry.action scene.dropFirst
        refine Int.le_trans ?_ (Int.le_of_eq still.symm)
        by_cases isDeadline : entry.action = .deadline
        · have member := Timers.mem_running.mpr ⟨List.mem_of_getElem? stands, active⟩
          have same := unasked.only entry member isDeadline
          subst same
          exact due
        · exact unasked.expired (Moment.requested_before quiet isDeadline asked)
    | discard scene entry stands cancelled => exact unasked.expired asked
    | manage before after conducts => exact inner.elim

/-- The deadline of a bounded run is the only one that comes in it. -/
def RunsOnly (handle : TimerHandle) (moment : Moment σ ε α) : Prop :=
  ∀ entry, moment.deed = .run entry → entry.action = .deadline → entry = ending handle

theorem Lawful.runsOnly (lawful : Lawful handlers moment) (armed : Armed handle moment.before) :
    RunsOnly handle moment := by
  rintro entry ran isDeadline
  cases lawful with
  | run scene other stands due active =>
      cases ran
      exact armed.only entry (Timers.mem_running.mpr ⟨List.mem_of_getElem? stands, active⟩)
        isDeadline
  | _ => contradiction

/-! ## Bounded runs -/

/-- The handle of the deadline of a run that starts now. -/
def deadlineOf (reactor : Reactor σ ε α) (limit : Duration) : TimerHandle :=
  (reactor.scene.schedule limit .deadline).1

/-- The loop with the deadline of a run that starts now. -/
def arm (reactor : Reactor σ ε α) (limit : Duration) : Reactor σ ε α :=
  { reactor with scene := (reactor.scene.schedule limit .deadline).2 }

theorem exists_runWithin (ran : runFor handlers fuel limit start = some ended) :
    ∃ stopped, runWithin handlers fuel (start.arm limit) = some stopped ∧
      ended = stopped.modifyScene fun scene => scene.cancel (start.deadlineOf limit) := by
  rcases Option.map_eq_some_iff.mp ran with ⟨stopped, within, rfl⟩
  exact ⟨stopped, within, rfl⟩

/-- Apart from its start and its end, a bounded run is a run. -/
theorem mem_runForLog (within : runWithin handlers fuel (start.arm limit) = some ended) :
    moment ∈ runForLog handlers fuel limit start ↔
      moment ∈ runLog handlers fuel (start.arm limit) ∨
      moment = ⟨.manage, start.scene, (start.arm limit).scene⟩ ∨
      moment = ⟨.manage, ended.scene, ended.scene.cancel (start.deadlineOf limit)⟩ := by
  have logged : runForLog handlers fuel limit start =
      ⟨.manage, start.scene, (start.arm limit).scene⟩ ::
        (runLog handlers fuel (start.arm limit) ++
          [⟨.manage, ended.scene, ended.scene.cancel (start.deadlineOf limit)⟩]) := by
    unfold arm at within ⊢
    simp only [runForLog, deadlineOf, within]
  rw [logged, List.mem_cons, List.mem_append, List.mem_singleton]
  exact or_left_comm

/-- What a bounded run comes to. -/
structure Limits (start : Reactor σ ε α) (limit : Duration) (log : List (Moment σ ε α))
    (ended : Reactor σ ε α) : Prop where
  now_le : ended.scene.now ≤ start.scene.now + limit
  /-- Nothing but the limit ends a run without requests. -/
  now_eq : start.scene.rest.signal.requested = false → (∀ moment ∈ log, ¬ moment.Asks) →
    ended.scene.now = start.scene.now + limit
  requested : ended.scene.rest.signal.requested = false
  wakes : ended.scene.rest.signal.wakes = 0
  inactive : ended.scene.timers.isActive (start.deadlineOf limit) = false
  /-- No deadline comes in the run but its own. -/
  own : ∀ moment ∈ log, ∀ entry, moment.deed = .run entry → entry.action = .deadline →
    entry.handle = start.deadlineOf limit

section BoundedRuns

variable (restrained : handlers.Restrained) (idle : start.scene.IsIdle)
include restrained idle

/-- The deadlines of earlier runs have no part in a bounded run, and its own is not left. -/
theorem isIdle_runFor (ran : runFor handlers fuel limit start = some ended) :
    ended.scene.IsIdle := by
  rcases exists_runWithin ran with ⟨stopped, within, rfl⟩
  have armed : Armed (start.deadlineOf limit) (start.arm limit).scene := .of_schedule idle limit
  rcases (keeps_runWithin restrained (fun _ _ lawful => lawful.armed restrained) armed within).2
    with ⟨last, rfl, _, armed⟩
  constructor
  case ordered => exact armed.ordered.cancel (start.deadlineOf limit)
  case own =>
    intro entry member isDeadline
    rcases Timers.mem_running_cancel.mp member with ⟨there, different⟩
    rw [armed.only entry there isDeadline] at different
    exact different rfl

/-- A bounded run goes on until its limit is over if nobody asks it to stop. -/
theorem le_now_of_quiet (unasked : start.scene.rest.signal.requested = false)
    (quiet : ∀ moment ∈ runForLog handlers fuel limit start, ¬ moment.Asks)
    (ran : runFor handlers fuel limit start = some ended) :
    start.scene.now + limit ≤ ended.scene.now := by
  rcases exists_runWithin ran with ⟨stopped, within, rfl⟩
  have armed : Unasked (start.deadlineOf limit) (start.arm limit).scene :=
    ⟨.of_schedule idle limit, fun asked => absurd asked (ne_true_of_eq_false unasked)⟩
  rcases (keeps_runWithin restrained (fun moment member lawful inner =>
    lawful.unasked restrained inner (quiet moment ((mem_runForLog within).mpr (Or.inl member))))
    armed within).2 with ⟨last, rfl, asked, reached⟩
  exact reached.expired asked

theorem limits_runFor (ran : runFor handlers fuel limit start = some ended) :
    Limits start limit (runForLog handlers fuel limit start) ended := by
  rcases exists_runWithin ran with ⟨stopped, within, rfl⟩
  have armed : Armed (start.deadlineOf limit) (start.arm limit).scene := .of_schedule idle limit
  rcases keeps_runWithin restrained (fun _ _ lawful => lawful.armed restrained) armed within
    with ⟨moments, last, rfl, _, reached⟩
  constructor
  case now_le => exact reached.ahead
  case now_eq =>
    intro unasked quiet
    exact Int.le_antisymm reached.ahead (le_now_of_quiet restrained idle unasked quiet ran)
  case requested => rfl
  case wakes => rfl
  case inactive =>
    apply Timers.isActive_eq_false_iff.mpr
    intro entry member
    exact (Timers.mem_running_cancel.mp member).2
  case own =>
    intro moment member entry ran isDeadline
    rcases (mem_runForLog within).mp member with inside | rfl | rfl
    · rcases moments moment inside with ⟨lawful, armed⟩
      rw [lawful.runsOnly armed entry ran isDeadline]
      rfl
    · contradiction
    · contradiction

end BoundedRuns

/-- What leads from a loop to what has become of it: calls that have come back, and whatever
is done between them. -/
inductive Led (handlers : Handlers σ ε α) (first : Reactor σ ε α) : Reactor σ ε α → Prop
  | refl : Led handlers first first
  | poll {reactor : Reactor σ ε α} (led : Led handlers first reactor) (timeout : Option Duration) :
      Led handlers first (poll handlers timeout reactor).2
  | run {reactor ended : Reactor σ ε α} (led : Led handlers first reactor) (fuel : Nat)
      (ran : runWithin handlers fuel reactor = some ended) : Led handlers first ended
  | runFor {reactor ended : Reactor σ ε α} (led : Led handlers first reactor) (fuel : Nat)
      (limit : Duration) (ran : runFor handlers fuel limit reactor = some ended) :
      Led handlers first ended
  /-- The owner may do what callbacks may do, and register and remove endpoints. -/
  | manage {reactor next : Reactor σ ε α} (led : Led handlers first reactor)
      (works : Scene.Works reactor.scene next.scene) : Led handlers first next
  | resetSignal {reactor : Reactor σ ε α} (led : Led handlers first reactor) :
      Led handlers first reactor.resetSignal
  | elapse {reactor : Reactor σ ε α} (led : Led handlers first reactor) (d : Duration) :
      Led handlers first (reactor.modifyScene fun scene => scene.elapse d)

theorem Led.isIdle {first : Reactor σ ε α} (led : Led handlers first reactor)
    (restrained : handlers.Restrained) (idle : first.scene.IsIdle) : reactor.scene.IsIdle := by
  induction led with
  | refl => exact idle
  | poll _ timeout inductionHypothesis => exact isIdle_poll restrained inductionHypothesis
  | run _ fuel ran inductionHypothesis =>
      exact isIdle_runWithin restrained inductionHypothesis ran
  | runFor _ fuel limit ran inductionHypothesis =>
      exact isIdle_runFor restrained inductionHypothesis ran
  | manage _ works inductionHypothesis => exact inductionHypothesis.respects works.respects
  | resetSignal _ inductionHypothesis =>
      exact ⟨inductionHypothesis.ordered, inductionHypothesis.own⟩
  | elapse _ d inductionHypothesis =>
      exact ⟨inductionHypothesis.ordered, inductionHypothesis.own⟩

/-- A bounded run that comes back is over by its limit, leaves no request, wake or deadline
behind, and is ended by no deadline but its own, whatever calls there were before it: if
nobody asks it to stop, it is over at its limit exactly. -/
theorem limits_of_led {first : Reactor σ ε α} (restrained : handlers.Restrained)
    (idle : first.scene.IsIdle) (led : Led handlers first start)
    (ran : runFor handlers fuel limit start = some ended) :
    Limits start limit (runForLog handlers fuel limit start) ended :=
  limits_runFor restrained (led.isIdle restrained idle) ran

/-- Callbacks of a loop whose timers ask it to stop. -/
def halting : Handlers Unit Unit Unit where
  message _ _ scene := scene
  timer _ scene := Scene.requestStop scene

theorem restrained_halting : halting.Restrained where
  message _ _ _ := .refl
  timer _ scene := .single (.requestStop scene)

/-- A loop with two timers that stop it at one instant. -/
def halted : Reactor Unit Unit Unit :=
  (((ofState 0 {} ()).schedule 20 ()).2.schedule 20 ()).2

/-- A run that is stopped early, twice over, does not cut the next one short. -/
theorem limits_of_halted :
    ∃ stopped ended, runFor halting 9 300 halted = some stopped ∧
      runFor halting 9 500 stopped = some ended ∧
      stopped.scene.now = 20 ∧ ended.scene.now = 520 ∧
      Limits stopped 500 (runForLog halting 9 500 stopped) ended := by
  let fresh : Reactor Unit Unit Unit := ofState 0 {} ()
  have set : Led halting fresh halted := .manage .refl
    (Relation.ReflTransGen.trans (.single (.schedule fresh.scene 20 ()))
      (.single (.schedule (fresh.schedule 20 ()).2.scene 20 ())))
  refine ⟨_, _, rfl, rfl, rfl, rfl, ?_⟩
  exact limits_of_led restrained_halting (isIdle_ofState 0 {} ()) (set.runFor 9 300 rfl) rfl

end ClusterHub.Reactor
