import ClusterHub.Proofs.Reactor.Limit

/-!
# Invariants of loops

What the callbacks of a loop and the reading of messages keep holds on, whatever the loop
does: in an iteration, in a run and in a run that ends when some time is over.  The
endpoints of a loop stay what they are as well, apart from being found closed.
-/

namespace ClusterHub.Reactor

variable {σ ε α : Type} {handlers : Handlers σ ε α} {holds : Network → σ → Prop}
  {reactor ended : Reactor σ ε α} {scene : Scene σ α} {fuel : Nat} {limit : Duration}

/-- Whether a property holds of the network and the owner's state. -/
def Scene.Meets (holds : Network → σ → Prop) (scene : Scene σ α) : Prop :=
  holds scene.rest.network scene.rest.state

/-- Whether reading and all callbacks keep a property of the network and the owner's
state. -/
structure Handlers.Keep (handlers : Handlers σ ε α) (holds : Network → σ → Prop) : Prop where
  read : ∀ inbox message network after state, network.receive inbox = .message message after →
    holds network state → holds after state
  message : ∀ action message (scene : Scene σ α), Scene.Meets holds scene →
    Scene.Meets holds (handlers.message action message scene)
  timer : ∀ action (scene : Scene σ α), Scene.Meets holds scene →
    Scene.Meets holds (handlers.timer action scene)

section Holding

theorem meets_runAlarm (keep : handlers.Keep holds) (meets : scene.Meets holds)
    (alarm : Alarm α) : Scene.Meets holds (runAlarm handlers alarm scene) := by
  cases alarm with
  | deadline => exact meets
  | own action => exact keep.timer action scene meets

theorem meets_readEach (keep : handlers.Keep holds) (meets : scene.Meets holds)
    (endpoints : List (Endpoint ε)) :
    Scene.Meets holds (readEach handlers endpoints scene).2.2 := by
  induction endpoints generalizing scene with
  | nil => exact meets
  | cons endpoint endpoints inductionHypothesis =>
      unfold readEach
      split
      · exact inductionHypothesis meets
      · split
        · next message network received =>
            have read : Scene.Meets holds (Scene.modifyNetwork scene fun _ => network) :=
              keep.read endpoint.inbox message _ network _ received meets
            exact inductionHypothesis (keep.message endpoint.action message _ read)
        · exact inductionHypothesis meets
        · exact inductionHypothesis meets

theorem meets_fireUpTo (keep : handlers.Keep holds) (meets : scene.Meets holds)
    (due : Instant) (horizon fuel : Nat) :
    Scene.Meets holds (scene.fireUpTo (runAlarm handlers) due horizon fuel).2 := by
  induction fuel generalizing scene with
  | zero => exact meets
  | succ fuel inductionHypothesis =>
      unfold World.fireUpTo
      split
      · exact meets
      · next entry rest _ =>
          split
          · have popped : Scene.Meets holds
                { scene with timers := { scene.timers with entries := rest } } := meets
            split
            · exact inductionHypothesis (meets_runAlarm keep popped entry.action)
            · exact inductionHypothesis popped
          · exact meets

theorem meets_dispatch (keep : handlers.Keep holds) (meets : reactor.scene.Meets holds) :
    (dispatch handlers reactor).2.scene.Meets holds :=
  meets_fireUpTo keep (meets_readEach keep meets reactor.endpoints) _ _ _

theorem meets_poll (keep : handlers.Keep holds) (meets : reactor.scene.Meets holds)
    (timeout : Option Duration) : (poll handlers timeout reactor).2.scene.Meets holds := by
  unfold poll
  split
  · exact meets
  · split
    · exact meets_dispatch keep meets
    · split
      · exact meets
      · next wait _ =>
          have waited : (reactor.modifyScene fun scene => scene.elapse wait).scene.Meets holds :=
            meets
          exact meets_dispatch keep waited

theorem meets_runWithin (keep : handlers.Keep holds) (meets : reactor.scene.Meets holds)
    (ran : runWithin handlers fuel reactor = some ended) : ended.scene.Meets holds := by
  induction fuel generalizing reactor with
  | zero => contradiction
  | succ fuel inductionHypothesis =>
      have polled := meets_poll keep meets none
      unfold runWithin at ran
      split at ran
      · next equal =>
          rw [equal] at polled
          exact inductionHypothesis polled ran
      · next equal =>
          rw [equal] at polled
          cases ran
          exact polled
      · contradiction

theorem meets_runFor (keep : handlers.Keep holds) (meets : reactor.scene.Meets holds)
    (ran : runFor handlers fuel limit reactor = some ended) : ended.scene.Meets holds := by
  rcases exists_runWithin ran with ⟨stopped, within, rfl⟩
  have armed : (reactor.arm limit).scene.Meets holds := meets
  have reached : stopped.scene.Meets holds := meets_runWithin keep armed within
  exact reached

end Holding

section Endpoints

/-- What the endpoints of a loop are there for. -/
def actions (reactor : Reactor σ ε α) : List ε := reactor.endpoints.map Endpoint.action

theorem map_action_readEach (handlers : Handlers σ ε α) (endpoints : List (Endpoint ε))
    (scene : Scene σ α) :
    (readEach handlers endpoints scene).2.1.map Endpoint.action =
      endpoints.map Endpoint.action := by
  induction endpoints generalizing scene with
  | nil => rfl
  | cons endpoint endpoints inductionHypothesis =>
      unfold readEach
      split
      · exact congrArg (endpoint.action :: ·) (inductionHypothesis scene)
      · split <;> exact congrArg (endpoint.action :: ·) (inductionHypothesis _)

theorem actions_dispatch (handlers : Handlers σ ε α) (reactor : Reactor σ ε α) :
    (dispatch handlers reactor).2.actions = reactor.actions :=
  map_action_readEach handlers reactor.endpoints reactor.scene

theorem actions_poll (handlers : Handlers σ ε α) (timeout : Option Duration)
    (reactor : Reactor σ ε α) : (poll handlers timeout reactor).2.actions = reactor.actions := by
  unfold poll
  split
  · rfl
  · split
    · exact actions_dispatch handlers reactor
    · split
      · rfl
      · exact actions_dispatch handlers _

theorem actions_runWithin (ran : runWithin handlers fuel reactor = some ended) :
    ended.actions = reactor.actions := by
  induction fuel generalizing reactor with
  | zero => contradiction
  | succ fuel inductionHypothesis =>
      have polled := actions_poll handlers none reactor
      unfold runWithin at ran
      split at ran
      · next equal =>
          rw [equal] at polled
          exact (inductionHypothesis ran).trans polled
      · next equal =>
          rw [equal] at polled
          cases ran
          exact polled
      · contradiction

theorem actions_runFor (ran : runFor handlers fuel limit reactor = some ended) :
    ended.actions = reactor.actions := by
  rcases exists_runWithin ran with ⟨stopped, within, rfl⟩
  have same : stopped.actions = (reactor.arm limit).actions := actions_runWithin within
  exact same

end Endpoints

end ClusterHub.Reactor
