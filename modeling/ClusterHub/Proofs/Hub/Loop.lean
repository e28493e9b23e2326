import ClusterHub.Hub.Server
import ClusterHub.Proofs.Hub.Timely

/-!
# Loops bring about histories

Whatever the loop of a server does, the hub within it goes through a timely
history: each message that is read and each timer that runs is an event, and
after each of them what the hub has put up is sent out.
-/

namespace ClusterHub

open Reactor

namespace ServerState

/-- The hub within what a server's callbacks see. -/
def hubOf (scene : Scene) : Hub := scene.withRest scene.rest.state.hub

/-- Nothing that the hub has put up is still to be sent. -/
def IsQuiet (scene : Scene) : Prop := (hubOf scene).flush = hubOf scene

/-- The hub goes through a timely history, and what it put up is sent. -/
structure Follows (before after : Scene) : Prop where
  history : ∃ history, (hubOf before).isTimely history ∧ hubOf after = (hubOf before).run history
  quiet : IsQuiet after

variable {before middle after scene : Scene}

theorem Follows.of_same (quiet : IsQuiet before) (same : hubOf after = hubOf before) :
    Follows before after := by
  constructor
  case history => exact ⟨[], rfl, same⟩
  case quiet =>
    rw [IsQuiet, same]
    exact quiet

theorem Follows.trans (first : Follows before middle) (second : Follows middle after) :
    Follows before after := by
  rcases first.history with ⟨past, pastTimely, pastEqual⟩
  rcases second.history with ⟨future, futureTimely, futureEqual⟩
  rw [pastEqual] at futureTimely futureEqual
  constructor
  case history =>
    refine ⟨past ++ future, Hub.isTimely_append.mpr ⟨pastTimely, futureTimely⟩, ?_⟩
    rw [Hub.run_append]
    exact futureEqual
  case quiet => exact second.quiet

/-- A callback that lets the hub deal with an event, and then sends. -/
theorem Follows.of_visit {act : Hub → Hub} (event : Hub.Event)
    (allowed : (hubOf before).allows event)
    (same : act (hubOf scene) = (hubOf before).react event) :
    Follows before (visit act scene) := by
  have sent : hubOf (visit act scene) = (act (hubOf scene)).flush := rfl
  constructor
  case history =>
    refine ⟨[event, .flush], Hub.isTimely_cons.mpr ⟨allowed, rfl⟩, ?_⟩
    rw [sent, same]
    rfl
  case quiet =>
    rw [IsQuiet, sent]
    rfl

theorem follows_handle (quiet : IsQuiet scene) (channel : HubChannel) (message : Message) :
    Follows scene (handle channel message scene) := by
  cases channel with
  | pongs => exact .of_visit (.pong message) rfl rfl
  | queries => exact .of_visit (.query message) rfl rfl
  | traffic => exact .of_visit (.traffic message) rfl rfl
  | beacon heart => exact .of_same quiet rfl

theorem follows_readEach (quiet : IsQuiet scene) (endpoints : List (Endpoint HubChannel)) :
    Follows scene (readEach handlers endpoints scene).2.2 := by
  induction endpoints generalizing scene with
  | nil => exact .of_same quiet rfl
  | cons endpoint endpoints inductionHypothesis =>
      unfold readEach
      split
      · exact inductionHypothesis quiet
      · split
        · next message network _ =>
            have read : Follows scene (Scene.modifyNetwork scene fun _ => network) :=
              .of_same quiet rfl
            have handled := read.trans (follows_handle read.quiet endpoint.action message)
            exact handled.trans (inductionHypothesis handled.quiet)
        · exact inductionHypothesis quiet
        · exact inductionHypothesis quiet

/-- The scene without its first timer. -/
def dropFirst (scene : Scene) : Scene := { scene with timers := scene.timers.dropAt 0 }

theorem IsQuiet.dropFirst (quiet : IsQuiet scene) : IsQuiet (dropFirst scene) := by
  have dropped := congrArg (fun hub : Hub => hub.dropTimer 0) quiet
  exact dropped

variable {entry : TimerEntry (Alarm Duty)}

/-- The first timer can have its turn when it is due. -/
theorem allows_first (stands : scene.timers.entries[0]? = some entry)
    (due : entry.deadline ≤ scene.now) : (hubOf scene).allows (.timer 0) := by
  have head : (hubOf scene).timers.entries.head? = some entry := List.head?_eq_getElem?.trans stands
  unfold Hub.allows
  rw [head]
  exact decide_eq_true due

/-- No time goes by while a timer runs. -/
theorem now_runAlarm (alarm : Alarm Duty) (scene : Scene) :
    (runAlarm handlers alarm scene).now = scene.now := by
  cases alarm with
  | deadline => rfl
  | own duty => exact (Hub.meanwhile_runAlarm (.own duty) (hubOf scene)).now

/-- A timer that runs does to the hub what the hub's own account of it says, once
everything is sent. -/
theorem follows_first (quiet : IsQuiet scene) (stands : scene.timers.entries[0]? = some entry)
    (due : entry.deadline ≤ scene.now) (active : entry.active) :
    Follows scene (runAlarm handlers entry.action (dropFirst scene)) := by
  have allowed := allows_first stands due
  have turn : (hubOf scene).react (.timer 0) =
      Hub.runAlarm entry.action (hubOf (dropFirst scene)) := Hub.fire_of_active stands active
  cases action : entry.action with
  | deadline =>
      rw [action] at turn
      constructor
      case history =>
        refine ⟨[.timer 0, .flush], Hub.isTimely_cons.mpr ⟨allowed, rfl⟩, ?_⟩
        rw [Hub.run_cons, turn]
        exact quiet.dropFirst.symm
      case quiet => exact quiet.dropFirst
  | own duty =>
      rw [action] at turn
      exact .of_visit (.timer 0) allowed turn.symm

theorem follows_dropFirst (quiet : IsQuiet scene)
    (stands : scene.timers.entries[0]? = some entry) (due : entry.deadline ≤ scene.now)
    (cancelled : entry.active = false) : Follows scene (dropFirst scene) := by
  have turn : (hubOf scene).react (.timer 0) = hubOf (dropFirst scene) :=
    Hub.fire_of_cancelled stands cancelled
  constructor
  case history =>
    exact ⟨[.timer 0], Hub.isTimely_cons.mpr ⟨allows_first stands due, rfl⟩, turn.symm⟩
  case quiet => exact quiet.dropFirst

theorem follows_fireUpTo (quiet : IsQuiet scene) {due : Instant} (reached : due ≤ scene.now)
    (horizon fuel : Nat) :
    Follows scene (scene.fireUpTo (runAlarm handlers) due horizon fuel).2 := by
  induction fuel generalizing scene with
  | zero => exact .of_same quiet rfl
  | succ fuel inductionHypothesis =>
      unfold World.fireUpTo
      split
      · exact .of_same quiet rfl
      · next entry rest entries =>
          have stands : scene.timers.entries[0]? = some entry := by
            rw [entries]
            rfl
          have popped : { scene with timers := { scene.timers with entries := rest } } =
              dropFirst scene := by
            rw [dropFirst, Timers.dropAt, entries]
            rfl
          rw [popped]
          split
          · next both =>
              have early := Int.le_trans both.1 reached
              cases active : entry.active with
              | true =>
                  have first := follows_first quiet stands early active
                  have still := now_runAlarm entry.action (dropFirst scene)
                  exact first.trans (inductionHypothesis first.quiet (still ▸ reached))
              | false =>
                  have first := follows_dropFirst quiet stands early active
                  exact first.trans (inductionHypothesis first.quiet reached)
          · exact .of_same quiet rfl

/-! ## Iterations -/

variable {loop ended : Reactor ServerState HubChannel Duty}

theorem follows_dispatch (quiet : IsQuiet loop.scene) :
    Follows loop.scene (dispatch handlers loop).2.scene := by
  have read := follows_readEach quiet loop.endpoints
  exact read.trans (follows_fireUpTo read.quiet (Int.le_refl _) _ _)

theorem follows_elapse (quiet : IsQuiet scene) {d : Duration}
    (short : (hubOf scene).allows (.elapse d)) : Follows scene (scene.elapse d) := by
  constructor
  case history => exact ⟨[.elapse d], Hub.isTimely_cons.mpr ⟨short, rfl⟩, rfl⟩
  case quiet =>
    have later := congrArg (fun hub : Hub => hub.elapse d) quiet
    exact later

/-- A loop waits at most until its first timer is due. -/
theorem allows_elapse_of_waitLimit {timeout : Option Duration} {wait : Duration}
    (limit : waitLimit timeout (scene.timers.nextWait scene.now) = some wait) :
    (hubOf scene).allows (.elapse wait) := by
  change (scene.timers.nextWait scene.now).all (fun next => wait ≤ next) = true
  cases next : scene.timers.nextWait scene.now with
  | none => rfl
  | some longest =>
      rw [next] at limit
      cases timeout with
      | none =>
          cases limit
          exact decide_eq_true (Nat.le_refl _)
      | some given =>
          cases limit
          exact decide_eq_true (Nat.min_le_right _ _)

theorem follows_poll (quiet : IsQuiet loop.scene) (timeout : Option Duration) :
    Follows loop.scene (poll handlers timeout loop).2.scene := by
  unfold poll
  split
  · exact .of_same quiet rfl
  · split
    · exact follows_dispatch quiet
    · split
      · exact .of_same quiet rfl
      · next wait limit =>
          let waiting := loop.modifyScene fun scene => scene.elapse wait
          have waited : Follows loop.scene waiting.scene :=
            follows_elapse quiet (allows_elapse_of_waitLimit limit)
          exact waited.trans (follows_dispatch waited.quiet)

theorem follows_runWithin (quiet : IsQuiet loop.scene) {fuel : Nat}
    (finished : runWithin handlers fuel loop = some ended) : Follows loop.scene ended.scene := by
  induction fuel generalizing loop with
  | zero => contradiction
  | succ fuel inductionHypothesis =>
      have polled := follows_poll quiet none
      unfold runWithin at finished
      split at finished
      · next messages timers next equal =>
          rw [equal] at polled
          exact polled.trans (inductionHypothesis polled.quiet finished)
      · next next equal =>
          rw [equal] at polled
          cases finished
          exact polled.trans (.of_same polled.quiet rfl)
      · contradiction

end ServerState

namespace Server

variable {config : Config} {server ended : Server} {start site last : Site}

theorem isAttached_build (built : build config start = (.ok server, site)) :
    (server.hub site.now).IsAttached := by
  unfold build at built
  simp only at built
  split at built
  · cases built
  · cases built
    exact ⟨_, _, _, _, rfl⟩

/-- What the hub of a server has come to when its loop ends is what a timely
history has made of a hub that was just attached. -/
theorem exists_history_run (built : build config start = (.ok server, site)) {fuel : Nat}
    (finished : server.run fuel site = some (ended, last)) :
    ∃ (hub : Hub) (history : List Hub.Event),
      hub.IsAttached ∧ hub.isTimely history ∧ ended.hub last.now = hub.run history := by
  have attached := isAttached_build built
  rcases Option.map_eq_some_iff.mp finished with ⟨loop, within, parked⟩
  have quiet : ServerState.IsQuiet (server.resume site).scene := by
    rcases attached with ⟨config, engineAddresses, clientAddresses, now, same⟩
    change (server.hub site.now).flush = server.hub site.now
    rw [same]
    rfl
  rcases (ServerState.follows_runWithin quiet within).history with ⟨history, timely, same⟩
  refine ⟨server.hub site.now, history, attached, timely, ?_⟩
  cases parked
  exact same

end Server

end ClusterHub
