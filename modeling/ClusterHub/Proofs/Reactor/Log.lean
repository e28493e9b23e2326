import ClusterHub.Proofs.Reactor.Conduct

/-!
# Logs of loops

What a loop does, moment by moment: it waits, reads a message, runs a timer or takes a
cancelled one off its queue.  The log of a call follows the call itself.  A log is a
trace: each moment starts where the one before it has ended, and what happens in it is
what the loop does then.
-/

namespace ClusterHub.Reactor

variable {σ ε α : Type}

/-- What happens at one moment. -/
inductive Deed (ε α : Type)
  | wait (d : Duration)
  | read (action : ε) (message : Message)
  | run (entry : TimerEntry (Alarm α))
  /-- A cancelled timer is taken off the queue. -/
  | discard (entry : TimerEntry (Alarm α))
  /-- The owner of the loop does something. -/
  | manage

/-- Whether a message is read. -/
def Deed.isRead : Deed ε α → Bool
  | .read .. => true
  | _ => false

/-- Whether a timer is run. -/
def Deed.isRun : Deed ε α → Bool
  | .run _ => true
  | _ => false

/-- A moment of a loop. -/
structure Moment (σ ε α : Type) where
  deed : Deed ε α
  before : Scene σ α
  after : Scene σ α

section Logs

variable (handlers : Handlers σ ε α)

/-- The log of reading at most one message from each endpoint. -/
def readLog : List (Endpoint ε) → Scene σ α → List (Moment σ ε α)
  | [], _ => []
  | endpoint :: endpoints, scene =>
      if endpoint.closed then readLog endpoints scene
      else match scene.rest.network.receive endpoint.inbox with
        | .message message network =>
            let after := handlers.message endpoint.action message
              (Scene.modifyNetwork scene fun _ => network)
            ⟨.read endpoint.action message, scene, after⟩ :: readLog endpoints after
        | .nothing => readLog endpoints scene
        | .closed => readLog endpoints scene

/-- The log of running the timers that are due. -/
def passLog (due : Instant) (horizon : Nat) : Nat → Scene σ α → List (Moment σ ε α)
  | 0, _ => []
  | fuel + 1, scene =>
      match scene.timers.entries with
      | [] => []
      | entry :: _ =>
          if entry.deadline ≤ due ∧ entry.ticket ≤ horizon then
            if entry.active then
              let after := runAlarm handlers entry.action scene.dropFirst
              ⟨.run entry, scene, after⟩ :: passLog due horizon fuel after
            else
              ⟨.discard entry, scene, scene.dropFirst⟩ :: passLog due horizon fuel scene.dropFirst
          else []

/-- The log of reading messages and running timers. -/
def dispatchLog (reactor : Reactor σ ε α) : List (Moment σ ε α) :=
  let scene := (readEach handlers reactor.endpoints reactor.scene).2.2
  readLog handlers reactor.endpoints reactor.scene ++
    passLog handlers scene.now scene.timers.issued scene.timers.entries.length scene

/-- The log of an iteration. -/
def pollLog (timeout : Option Duration) (reactor : Reactor σ ε α) : List (Moment σ ε α) :=
  if reactor.scene.rest.signal.requested then []
  else if isReady reactor.endpoints reactor.scene then dispatchLog handlers reactor
  else match waitLimit timeout (reactor.scene.timers.nextWait reactor.scene.now) with
    | none => []
    | some wait =>
        ⟨.wait wait, reactor.scene, reactor.scene.elapse wait⟩ ::
          dispatchLog handlers (reactor.modifyScene fun scene => scene.elapse wait)

/-- The log of the first iterations of a run. -/
def runLog : Nat → Reactor σ ε α → List (Moment σ ε α)
  | 0, _ => []
  | fuel + 1, reactor =>
      pollLog handlers none reactor ++
        match poll handlers none reactor with
        | (.ran _ _, next) => runLog fuel next
        | (.stopped, next) => [⟨.manage, next.scene, next.resetSignal.scene⟩]
        | (.asleep, _) => []

/-- The log of the first iterations of a run that ends when some time is over. -/
def runForLog (fuel : Nat) (limit : Duration) (reactor : Reactor σ ε α) :
    List (Moment σ ε α) :=
  let (handle, scene) := reactor.scene.schedule limit .deadline
  let armed : Reactor σ ε α := { reactor with scene }
  ⟨.manage, reactor.scene, scene⟩ :: (runLog handlers fuel armed ++
    match runWithin handlers fuel armed with
    | some ended => [⟨.manage, ended.scene, ended.scene.cancel handle⟩]
    | none => [])

end Logs

section Reports

variable (handlers : Handlers σ ε α)

/-- How many messages are read in a log, and how many timers run. -/
def tally (log : List (Moment σ ε α)) : Nat × Nat :=
  (log.countP fun moment => moment.deed.isRead, log.countP fun moment => moment.deed.isRun)

theorem tally_append (past future : List (Moment σ ε α)) :
    tally (past ++ future) =
      ((tally past).1 + (tally future).1, (tally past).2 + (tally future).2) := by
  simp only [tally, List.countP_append]

theorem tally_cons (moment : Moment σ ε α) (log : List (Moment σ ε α)) :
    tally (moment :: log) = ((tally log).1 + moment.deed.isRead.toNat,
      (tally log).2 + moment.deed.isRun.toNat) := by
  simp only [tally, List.countP_cons]
  cases moment.deed <;> rfl

theorem tally_readLog (endpoints : List (Endpoint ε)) (scene : Scene σ α) :
    tally (readLog handlers endpoints scene) = ((readEach handlers endpoints scene).1, 0) := by
  induction endpoints generalizing scene with
  | nil => rfl
  | cons endpoint endpoints inductionHypothesis =>
      unfold readLog readEach
      split
      · exact inductionHypothesis scene
      · cases scene.rest.network.receive endpoint.inbox with
        | message message network =>
            simp only [tally_cons, inductionHypothesis]
            rfl
        | nothing => exact inductionHypothesis scene
        | closed => exact inductionHypothesis scene

theorem tally_passLog (due : Instant) (horizon fuel : Nat) (scene : Scene σ α) :
    tally (passLog handlers due horizon fuel scene) =
      (0, (scene.fireUpTo (runAlarm handlers) due horizon fuel).1) := by
  induction fuel generalizing scene with
  | zero => rfl
  | succ fuel inductionHypothesis =>
      unfold passLog World.fireUpTo
      cases entries : scene.timers.entries with
      | nil => rfl
      | cons entry rest =>
          simp only [World.popped_eq_dropFirst entries]
          split
          · split
            · simp only [tally_cons, inductionHypothesis]
              rfl
            · simp only [tally_cons, inductionHypothesis]
              rfl
          · rfl

theorem tally_dispatchLog (reactor : Reactor σ ε α) :
    (dispatch handlers reactor).1 = .ran (tally (dispatchLog handlers reactor)).1
      (tally (dispatchLog handlers reactor)).2 := by
  rw [dispatchLog, tally_append, tally_readLog, tally_passLog, Nat.zero_add]
  rfl

/-- An iteration that reports anything reports the messages and the timers of its log. -/
theorem outcome_poll (timeout : Option Duration) (reactor : Reactor σ ε α) {messages timers : Nat}
    (ran : (poll handlers timeout reactor).1 = .ran messages timers) :
    tally (pollLog handlers timeout reactor) = (messages, timers) := by
  unfold poll at ran
  unfold pollLog
  split at ran
  · contradiction
  · next requested =>
      rw [if_neg requested]
      split at ran
      · next ready =>
          rw [if_pos ready]
          rw [tally_dispatchLog] at ran
          cases ran
          rfl
      · next idle =>
          rw [if_neg idle]
          cases limit : waitLimit timeout (reactor.scene.timers.nextWait reactor.scene.now) with
          | none =>
              rw [limit] at ran
              contradiction
          | some wait =>
              rw [limit] at ran
              simp only [tally_dispatchLog] at ran
              cases ran
              rw [tally_cons]
              rfl

end Reports

/-! ## Calls -/

/-- What the owner of a loop can do with it. -/
inductive Call (σ ε α : Type)
  | poll (timeout : Option Duration)
  | run
  | runFor (limit : Duration)
  /-- Whatever is done between the iterations, within what callbacks may do as well. -/
  | manage (change : Reactor σ ε α → Reactor σ ε α)
      (conducts : ∀ reactor, World.Conducts reactor.scene (change reactor).scene)

namespace Call

variable (handlers : Handlers σ ε α) (fuel : Nat)

/-- The loop when a call has come back, if a run takes no more than `fuel` iterations. -/
def perform (reactor : Reactor σ ε α) : Call σ ε α → Option (Reactor σ ε α)
  | .poll timeout => some (Reactor.poll handlers timeout reactor).2
  | .run => runWithin handlers fuel reactor
  | .runFor limit => Reactor.runFor handlers fuel limit reactor
  | .manage change _ => some (change reactor)

/-- The log of a call. -/
def log (reactor : Reactor σ ε α) : Call σ ε α → List (Moment σ ε α)
  | .poll timeout => pollLog handlers timeout reactor
  | .run => runLog handlers fuel reactor
  | .runFor limit => runForLog handlers fuel limit reactor
  | .manage change _ => [⟨.manage, reactor.scene, (change reactor).scene⟩]

/-- The loop when all calls have come back, one after another. -/
def performAll (calls : List (Call σ ε α)) (reactor : Reactor σ ε α) :
    Option (Reactor σ ε α) :=
  calls.foldlM (fun reactor call => call.perform handlers fuel reactor) reactor

/-- The log of calls, one after another, up to one that does not come back. -/
def logAll : List (Call σ ε α) → Reactor σ ε α → List (Moment σ ε α)
  | [], _ => []
  | call :: calls, reactor =>
      call.log handlers fuel reactor ++
        match call.perform handlers fuel reactor with
        | some next => logAll calls next
        | none => []

end Call

/-! ## Traces -/

/-- What a loop does at one moment. -/
inductive Lawful (handlers : Handlers σ ε α) : Moment σ ε α → Prop
  | wait (scene : Scene σ α) (d : Duration)
      (short : ∀ next, scene.timers.nextWait scene.now = some next → d ≤ next) :
      Lawful handlers ⟨.wait d, scene, scene.elapse d⟩
  | read (scene : Scene σ α) (inbox : InboxId) (action : ε) (message : Message) (network : Network)
      (received : scene.rest.network.receive inbox = .message message network) :
      Lawful handlers ⟨.read action message, scene,
        handlers.message action message (Scene.modifyNetwork scene fun _ => network)⟩
  | run (scene : Scene σ α) (entry : TimerEntry (Alarm α))
      (stands : scene.timers.entries[0]? = some entry) (due : entry.deadline ≤ scene.now)
      (active : entry.active) :
      Lawful handlers ⟨.run entry, scene, runAlarm handlers entry.action scene.dropFirst⟩
  | discard (scene : Scene σ α) (entry : TimerEntry (Alarm α))
      (stands : scene.timers.entries[0]? = some entry) (cancelled : entry.active = false) :
      Lawful handlers ⟨.discard entry, scene, scene.dropFirst⟩
  | manage (before after : Scene σ α) (conducts : World.Conducts before after) :
      Lawful handlers ⟨.manage, before, after⟩

/-- Moments that lead from one scene to another. -/
inductive Trace (handlers : Handlers σ ε α) : Scene σ α → List (Moment σ ε α) → Scene σ α → Prop
  | nil (scene : Scene σ α) : Trace handlers scene [] scene
  | cons {moment : Moment σ ε α} {moments : List (Moment σ ε α)} {last : Scene σ α}
      (lawful : Lawful handlers moment) (rest : Trace handlers moment.after moments last) :
      Trace handlers moment.before (moment :: moments) last

namespace Trace

variable {handlers : Handlers σ ε α} {first middle last : Scene σ α}
  {past future : List (Moment σ ε α)} {moment : Moment σ ε α}

theorem single (lawful : Lawful handlers moment) :
    Trace handlers moment.before [moment] moment.after := .cons lawful (.nil _)

theorem append (left : Trace handlers first past middle)
    (right : Trace handlers middle future last) : Trace handlers first (past ++ future) last := by
  induction left with
  | nil => exact right
  | cons lawful _ inductionHypothesis => exact .cons lawful (inductionHypothesis right)

/-- What holds at the start, and is kept by each moment, holds throughout. -/
theorem throughout {holds : Scene σ α → Prop} {log : List (Moment σ ε α)}
    (trace : Trace handlers first log last)
    (keeps : ∀ moment ∈ log, Lawful handlers moment → holds moment.before → holds moment.after)
    (start : holds first) :
    (∀ moment ∈ log, Lawful handlers moment ∧ holds moment.before) ∧ holds last := by
  induction trace with
  | nil => exact ⟨List.forall_mem_nil _, start⟩
  | cons lawful _ inductionHypothesis =>
      have kept := keeps _ List.mem_cons_self lawful start
      rcases inductionHypothesis (fun moment member => keeps moment (.tail _ member)) kept with
        ⟨before, after⟩
      exact ⟨List.forall_mem_cons.mpr ⟨⟨lawful, start⟩, before⟩, after⟩

end Trace

section Traces

variable {handlers : Handlers σ ε α} {reactor : Reactor σ ε α} {scene : Scene σ α}

theorem trace_readLog (handlers : Handlers σ ε α) (endpoints : List (Endpoint ε))
    (scene : Scene σ α) :
    Trace handlers scene (readLog handlers endpoints scene)
      (readEach handlers endpoints scene).2.2 := by
  induction endpoints generalizing scene with
  | nil => exact .nil scene
  | cons endpoint endpoints inductionHypothesis =>
      unfold readLog readEach
      split
      · exact inductionHypothesis scene
      · cases received : scene.rest.network.receive endpoint.inbox with
        | message message network =>
            have lawful : Lawful handlers _ :=
              .read scene endpoint.inbox endpoint.action message network received
            exact .cons lawful (inductionHypothesis _)
        | nothing => exact inductionHypothesis scene
        | closed => exact inductionHypothesis scene

theorem trace_passLog (still : handlers.Still) {due : Instant} (reached : due ≤ scene.now)
    (horizon fuel : Nat) :
    Trace handlers scene (passLog handlers due horizon fuel scene)
      (scene.fireUpTo (runAlarm handlers) due horizon fuel).2 := by
  induction fuel generalizing scene with
  | zero => exact .nil scene
  | succ fuel inductionHypothesis =>
      unfold passLog World.fireUpTo
      cases entries : scene.timers.entries with
      | nil => exact .nil scene
      | cons entry rest =>
          have stands : scene.timers.entries[0]? = some entry := by
            rw [entries]
            rfl
          simp only [World.popped_eq_dropFirst entries]
          split
          · next both =>
              split
              · next active =>
                  have lawful : Lawful handlers _ :=
                    .run scene entry stands (Int.le_trans both.1 reached) active
                  have same := still.now_runAlarm entry.action scene.dropFirst
                  exact .cons lawful (inductionHypothesis (same ▸ reached))
              · next cancelled =>
                  have lawful : Lawful handlers _ :=
                    .discard scene entry stands (eq_false_of_ne_true cancelled)
                  exact .cons lawful (inductionHypothesis reached)
          · exact .nil scene

theorem trace_dispatchLog (still : handlers.Still) (reactor : Reactor σ ε α) :
    Trace handlers reactor.scene (dispatchLog handlers reactor)
      (dispatch handlers reactor).2.scene :=
  (trace_readLog handlers reactor.endpoints reactor.scene).append
    (trace_passLog still (Int.le_refl _) _ _)

/-- No wait is longer than until the first timer. -/
theorem le_of_waitLimit {timeout next : Option Duration} {wait longest : Duration}
    (limit : waitLimit timeout next = some wait) (bounded : next = some longest) :
    wait ≤ longest := by
  subst bounded
  cases timeout with
  | none =>
      cases limit
      exact Nat.le_refl _
  | some given =>
      cases limit
      exact Nat.min_le_right _ _

theorem trace_pollLog (still : handlers.Still) (timeout : Option Duration)
    (reactor : Reactor σ ε α) :
    Trace handlers reactor.scene (pollLog handlers timeout reactor)
      (poll handlers timeout reactor).2.scene := by
  unfold pollLog poll
  split
  · exact .nil _
  · split
    · exact trace_dispatchLog still reactor
    · cases limit : waitLimit timeout (reactor.scene.timers.nextWait reactor.scene.now) with
      | none => exact .nil _
      | some wait =>
          have lawful : Lawful handlers _ :=
            .wait reactor.scene wait fun next bounded => le_of_waitLimit limit bounded
          let waited := reactor.modifyScene fun scene => scene.elapse wait
          exact .cons lawful (trace_dispatchLog still waited)

/-- The log of a run leads to where the run has come, even if it goes on. -/
theorem trace_runLog (still : handlers.Still) (fuel : Nat) (reactor : Reactor σ ε α) :
    ∃ last, Trace handlers reactor.scene (runLog handlers fuel reactor) last ∧
      ∀ ended, runWithin handlers fuel reactor = some ended → last = ended.scene := by
  -- One iteration for each unit of fuel; if that runs out the log stops where the run is.
  induction fuel generalizing reactor with
  | zero => exact ⟨reactor.scene, .nil _, nofun⟩
  | succ fuel inductionHypothesis =>
      have polled := trace_pollLog still none reactor
      unfold runLog runWithin
      rcases polls : poll handlers none reactor with ⟨outcome, next⟩
      rw [polls] at polled
      cases outcome with
      | ran messages timers =>
          rcases inductionHypothesis next with ⟨last, run, reached⟩
          exact ⟨last, polled.append run, reached⟩
      | stopped =>
          have lawful : Lawful handlers _ :=
            .manage next.scene next.resetSignal.scene
              (.single (.change next.scene fun rest => { rest with signal := rest.signal.reset }))
          refine ⟨next.resetSignal.scene, polled.append (.single lawful), ?_⟩
          rintro ended ⟨⟩
          rfl
      | asleep =>
          rw [List.append_nil]
          exact ⟨next.scene, polled, nofun⟩

theorem trace_runForLog (still : handlers.Still) (fuel : Nat) (limit : Duration)
    (reactor : Reactor σ ε α) :
    ∃ last, Trace handlers reactor.scene (runForLog handlers fuel limit reactor) last ∧
      ∀ ended, runFor handlers fuel limit reactor = some ended → last = ended.scene := by
  let scheduled := reactor.scene.schedule limit .deadline
  let armed : Reactor σ ε α := { reactor with scene := scheduled.2 }
  have lawful : Lawful handlers _ :=
    .manage reactor.scene armed.scene (.single (.schedule reactor.scene limit .deadline))
  rcases trace_runLog still fuel armed with ⟨last, run, reached⟩
  unfold runForLog runFor
  simp only
  cases finished : runWithin handlers fuel armed with
  | none => exact ⟨last, .cons lawful (run.append (.nil last)), nofun⟩
  | some ended =>
      have disarmed : Lawful handlers _ :=
        .manage ended.scene (ended.scene.cancel scheduled.1) (.single (.cancel _ _))
      have same := reached ended finished
      subst same
      refine ⟨ended.scene.cancel scheduled.1, .cons lawful (run.append (.single disarmed)), ?_⟩
      rintro stopped ⟨⟩
      rfl

/-- The log of a call leads to where the call has come, even if it does not come back. -/
theorem Call.trace_log (behave : handlers.Behave) (fuel : Nat) (reactor : Reactor σ ε α)
    (call : Call σ ε α) :
    ∃ last, Trace handlers reactor.scene (call.log handlers fuel reactor) last ∧
      ∀ next, call.perform handlers fuel reactor = some next → last = next.scene := by
  cases call with
  | poll timeout =>
      refine ⟨_, trace_pollLog behave.still timeout reactor, ?_⟩
      rintro next ⟨⟩
      rfl
  | run => exact trace_runLog behave.still fuel reactor
  | runFor limit => exact trace_runForLog behave.still fuel limit reactor
  | manage change conducts =>
      have lawful : Lawful handlers _ :=
        .manage reactor.scene (change reactor).scene (conducts reactor)
      refine ⟨_, .single lawful, ?_⟩
      rintro next ⟨⟩
      rfl

/-- The log of calls leads to where the calls have come, even if one does not come back. -/
theorem Call.trace_logAll (behave : handlers.Behave) (fuel : Nat) (calls : List (Call σ ε α))
    (reactor : Reactor σ ε α) :
    ∃ last, Trace handlers reactor.scene (Call.logAll handlers fuel calls reactor) last ∧
      ∀ next, Call.performAll handlers fuel calls reactor = some next → last = next.scene := by
  induction calls generalizing reactor with
  | nil =>
      refine ⟨reactor.scene, .nil _, ?_⟩
      rintro next ⟨⟩
      rfl
  | cons call calls inductionHypothesis =>
      rcases call.trace_log behave fuel reactor with ⟨middle, logged, reached⟩
      unfold Call.logAll Call.performAll
      rw [List.foldlM_cons]
      cases back : call.perform handlers fuel reactor with
      | none =>
          rw [List.append_nil]
          exact ⟨middle, logged, nofun⟩
      | some next =>
          rcases inductionHypothesis next with ⟨last, rest, ended⟩
          rw [← reached next back] at rest
          exact ⟨last, logged.append rest, ended⟩

/-- The log of a call that is made among others is a part of theirs. -/
theorem Call.exists_logAll_append {fuel : Nat} {past : List (Call σ ε α)}
    {middle : Reactor σ ε α} (reached : Call.performAll handlers fuel past reactor = some middle)
    (call : Call σ ε α) (later : List (Call σ ε α)) :
    ∃ earlier rest, Call.logAll handlers fuel (past ++ call :: later) reactor =
      earlier ++ call.log handlers fuel middle ++ rest := by
  induction past generalizing reactor with
  | nil =>
      cases reached
      exact ⟨[], _, rfl⟩
  | cons first past inductionHypothesis =>
      rw [Call.performAll, List.foldlM_cons] at reached
      rcases Option.bind_eq_some_iff.mp reached with ⟨next, back, others⟩
      rcases inductionHypothesis others with ⟨earlier, rest, parts⟩
      refine ⟨first.log handlers fuel reactor ++ earlier, rest, ?_⟩
      rw [List.cons_append, Call.logAll, back]
      simp only [parts, List.append_assoc]

/-- What it means that a log follows calls of a loop. -/
structure Follows (handlers : Handlers σ ε α) (fuel : Nat) (calls : List (Call σ ε α))
    (reactor : Reactor σ ε α) (log : List (Moment σ ε α)) : Prop where
  /-- The moments are those of the loop, each from where the one before it has ended, and
  they lead to where the calls have come. -/
  trace : ∃ last, Trace handlers reactor.scene log last ∧
    ∀ next, Call.performAll handlers fuel calls reactor = some next → last = next.scene
  /-- Each iteration that is called for has its part in the log, with as many messages and
  timers as it reports. -/
  polls : ∀ past timeout later middle, calls = past ++ .poll timeout :: later →
    Call.performAll handlers fuel past reactor = some middle →
    ∃ earlier part rest, log = earlier ++ part ++ rest ∧
      Trace handlers middle.scene part (poll handlers timeout middle).2.scene ∧
      ∀ messages timers, (poll handlers timeout middle).1 = .ran messages timers →
        tally part = (messages, timers)

theorem follows_logAll (behave : handlers.Behave) (fuel : Nat) (calls : List (Call σ ε α))
    (reactor : Reactor σ ε α) :
    Follows handlers fuel calls reactor (Call.logAll handlers fuel calls reactor) := by
  constructor
  case trace => exact Call.trace_logAll behave fuel calls reactor
  case polls =>
    rintro past timeout later middle rfl reached
    rcases Call.exists_logAll_append reached (.poll timeout) later with
      ⟨earlier, rest, parts⟩
    exact ⟨earlier, _, rest, parts, trace_pollLog behave.still timeout middle,
      fun messages timers => outcome_poll handlers timeout middle⟩

end Traces

end ClusterHub.Reactor
