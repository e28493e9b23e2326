import ClusterHub.Proofs.Reactor.Log

/-!
# Loops are punctual

A loop whose callbacks take no time, and that starts without overdue timers, runs each
timer at the very instant that it was set for.  No wait is longer than until the first
timer, so time never goes by a timer that is still to run; and none runs early, since a
pass takes those that are due only.  What was cancelled does not run.
-/

namespace ClusterHub.Reactor

variable {σ ε α : Type} {handlers : Handlers σ ε α} {moment : Moment σ ε α}
  {log : List (Moment σ ε α)} {first last : Scene σ α} {handle : TimerHandle}

/-- What holds of a moment that starts without overdue timers. -/
structure Keeps (moment : Moment σ ε α) : Prop where
  isPrompt : moment.after.IsPrompt
  timers : moment.before.timers.Extends moment.after.timers
  onTime : ∀ entry, moment.deed = .run entry → moment.before.now = entry.deadline
  running : ∀ entry, moment.deed = .run entry → entry ∈ moment.before.timers.running

/-- A moment in which no time goes by, and no timer runs. -/
theorem Keeps.of_proceeds (proceeds : moment.before.Proceeds moment.after)
    (prompt : moment.before.IsPrompt) (idle : ∀ entry, moment.deed ≠ .run entry) :
    Keeps moment where
  isPrompt := proceeds.isPrompt prompt
  timers := proceeds.extends
  onTime entry ran := absurd ran (idle entry)
  running entry ran := absurd ran (idle entry)

theorem Lawful.keeps (lawful : Lawful handlers moment) (behave : handlers.Behave)
    (prompt : moment.before.IsPrompt) : Keeps moment := by
  cases lawful with
  | wait scene d short =>
      constructor
      case isPrompt => exact prompt.elapse short
      case timers => exact .refl _
      case onTime => nofun
      case running => nofun
  | read scene inbox action message network received =>
      have read : scene.Proceeds (Scene.modifyNetwork scene fun _ => network) :=
        (World.Acts.change scene _).proceeds
      have handled := (behave.message action message
        (Scene.modifyNetwork scene fun _ => network)).proceeds
      exact .of_proceeds (read.trans handled) prompt nofun
  | run scene entry stands due active =>
      have member : entry ∈ scene.timers.running :=
        Timers.mem_running.mpr ⟨List.mem_of_getElem? stands, active⟩
      have ran := (World.proceeds_dropFirst scene).trans
        (behave.conducts_runAlarm entry.action scene.dropFirst).proceeds
      constructor
      case isPrompt => exact ran.isPrompt prompt
      case timers => exact ran.extends
      case onTime =>
        rintro other ⟨⟩
        -- A pass takes no entry that is not due, and no scene before has one that is overdue.
        exact Int.le_antisymm (prompt.ahead entry member) due
      case running =>
        rintro other ⟨⟩
        exact member
  | discard scene entry stands cancelled =>
      exact .of_proceeds (World.proceeds_dropFirst scene) prompt nofun
  | manage before after conducts => exact .of_proceeds conducts.proceeds prompt nofun

/-- What holds of a log that starts without overdue timers. -/
structure Account (first : Scene σ α) (log : List (Moment σ ε α)) : Prop where
  /-- Timers run at the instants that they were set for. -/
  onTime : ∀ moment ∈ log, ∀ entry, moment.deed = .run entry → moment.before.now = entry.deadline
  /-- No timer is overdue at any time. -/
  isPrompt : ∀ moment ∈ log, moment.before.IsPrompt ∧ moment.after.IsPrompt
  /-- A timer that was cancelled, or has run, before the start does not run. -/
  spent : ∀ handle, first.timers.Spent handle → ∀ moment ∈ log, ∀ entry,
    moment.deed = .run entry → entry.ticket ≠ handle.ticket
  /-- Neither does one that was cancelled, or has run, by the end of an earlier moment. -/
  later : log.Pairwise fun earlier moment => ∀ handle, earlier.after.timers.Spent handle →
    ∀ entry, moment.deed = .run entry → entry.ticket ≠ handle.ticket

theorem Trace.account (trace : Trace handlers first log last) (behave : handlers.Behave)
    (prompt : first.IsPrompt) : Account first log := by
  induction trace with
  | nil =>
      constructor
      case onTime => exact List.forall_mem_nil _
      case isPrompt => exact List.forall_mem_nil _
      case spent => exact fun _ _ => List.forall_mem_nil _
      case later => exact .nil
  | @cons moment moments last lawful rest inductionHypothesis =>
      have keeps := lawful.keeps behave prompt
      have account := inductionHypothesis keeps.isPrompt
      constructor
      case onTime => exact List.forall_mem_cons.mpr ⟨keeps.onTime, account.onTime⟩
      case isPrompt =>
        exact List.forall_mem_cons.mpr ⟨⟨prompt, keeps.isPrompt⟩, account.isPrompt⟩
      case spent =>
        intro handle spent
        refine List.forall_mem_cons.mpr ⟨?_, account.spent handle (spent.extends keeps.timers)⟩
        intro entry ran
        exact Timers.isActive_eq_false_iff.mp spent.inactive entry (keeps.running entry ran)
      case later =>
        refine List.pairwise_cons.mpr ⟨?_, account.later⟩
        intro later member handle spent
        exact account.spent handle spent later member

/-! ## Calls -/

/-- A loop that starts without overdue timers, and whose callbacks take no time, is
punctual in all its calls, which the log follows: each timer runs at the instant that it
was set for; none runs that was cancelled before the calls or in an earlier moment; and at
no time is there a timer still to run whose instant is over. -/
theorem punctual_logAll (behave : handlers.Behave) (reactor : Reactor σ ε α)
    (prompt : reactor.scene.IsPrompt) (calls : List (Call σ ε α)) (fuel : Nat) :
    let log := Call.logAll handlers fuel calls reactor
    Follows handlers fuel calls reactor log ∧
    (∀ moment ∈ log, ∀ entry, moment.deed = .run entry → moment.before.now = entry.deadline) ∧
    (∀ handle, reactor.scene.timers.Spent handle → ∀ moment ∈ log, ∀ entry,
      moment.deed = .run entry → entry.ticket ≠ handle.ticket) ∧
    (log.Pairwise fun earlier moment => ∀ (world : Scene σ α) (handle : TimerHandle),
      handle.ticket ≤ world.timers.issued → World.Conducts (world.cancel handle) earlier.after →
        ∀ entry, moment.deed = .run entry → entry.ticket ≠ handle.ticket) ∧
    (∀ moment ∈ log,
      (∀ entry ∈ moment.before.timers.running, moment.before.now ≤ entry.deadline) ∧
      (∀ entry ∈ moment.after.timers.running, moment.after.now ≤ entry.deadline)) := by
  intro log
  have follows := follows_logAll behave fuel calls reactor
  rcases follows.trace with ⟨last, trace, _⟩
  have account := trace.account behave prompt
  refine ⟨follows, account.onTime, account.spent, ?_, ?_⟩
  · apply account.later.imp
    intro earlier moment later world handle issued cancelled
    exact later handle (cancelled.spent_of_cancel issued)
  · intro moment member
    exact ⟨(account.isPrompt moment member).1.ahead, (account.isPrompt moment member).2.ahead⟩

/-- Callbacks of a loop: a message has a timer set for the same instant; a timer has
another one set, as many times as it says, and cancels the second one. -/
def ticking : Handlers Unit Unit Nat where
  message _ _ scene := scene.scheduleFor 0 (.own 0)
  timer
    | 0, scene => scene
    | count + 1, scene => (scene.scheduleFor 10 (.own count)).cancel ⟨2, 30⟩

theorem behave_ticking : ticking.Behave where
  message _ _ scene := .single (.schedule scene 0 (.own 0))
  timer
    | 0, _ => .refl
    | count + 1, scene =>
        Relation.ReflTransGen.trans (.single (.schedule scene 10 (.own count)))
          (.single (.cancel _ ⟨2, 30⟩))

/-- A loop with two timers. -/
def clockwork : Reactor Unit Unit Nat :=
  (((ofState 0 {} ()).schedule 10 2).2.schedule 30 0).2

theorem isPrompt_clockwork : clockwork.scene.IsPrompt := by
  let empty : Reactor Unit Unit Nat := ofState 0 {} ()
  have first := (World.Acts.schedule empty.scene 10 (.own 2)).proceeds
  have second := (World.Acts.schedule (empty.schedule 10 2).2.scene 30 (.own 0)).proceeds
  exact (first.trans second).isPrompt (isPrompt_ofState 0 {} ())

/-- The first timer sets another one twice, each time for ten later, and the second one is
cancelled; then the run is over, and nothing is left to happen in the iteration after it. -/
theorem punctual_logAll_of_clockwork :
    let calls : List (Call Unit Unit Nat) := [.runFor 35, .poll (some 5)]
    let log := Call.logAll ticking 9 calls clockwork
    ticking.Behave ∧ clockwork.scene.IsPrompt ∧
      (Call.performAll ticking 9 calls clockwork).map (fun reactor => reactor.scene.now) =
        some 40 ∧
      log.filterMap (fun moment => match moment.deed with
        | .run entry => some (entry.ticket, moment.before.now)
        | _ => none) = [(1, 10), (4, 20), (5, 30), (3, 35)] ∧
      Follows ticking 9 calls clockwork log ∧
      ∀ moment ∈ log, ∀ entry, moment.deed = .run entry → moment.before.now = entry.deadline := by
  intro calls log
  have punctual := punctual_logAll behave_ticking clockwork isPrompt_clockwork calls 9
  refine ⟨behave_ticking, isPrompt_clockwork, ?_, ?_, punctual.1, punctual.2.1⟩
  · decide +kernel
  · decide +kernel

end ClusterHub.Reactor
