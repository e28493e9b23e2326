import ClusterHub.Proofs.Hub.Handling

/-!
# Beats and timers

Between beats a hub's monitor has two handlers, one that welcomes new hearts
and one that gives up hearts that failed.  So a beat closes the round, welcomes
the new hearts one after the other, gives up the failed ones one after the
other, and has the handlers back in the end.
-/

namespace ClusterHub.Hub

variable {hub : Hub} {heart : String}

/-- Whether the monitor has the handlers that it was started with. -/
structure Attentive (hub : Hub) : Prop where
  onNew : hub.monitor.onNew = [.welcome]
  onFailure : hub.monitor.onFailure = [.giveUp]

theorem attentive_of_same {after : Hub} (attentive : hub.Attentive)
    (same : after.core.monitor = hub.core.monitor) : after.Attentive := by
  have monitor : after.monitor = hub.monitor := same
  constructor
  · rw [monitor]
    exact attentive.onNew
  · rw [monitor]
    exact attentive.onFailure

theorem handlers_handlePong {η : Type} (m : Monitor η) (message : Message) :
    (m.handlePong message).onNew = m.onNew ∧ (m.handlePong message).onFailure = m.onFailure := by
  unfold Monitor.handlePong
  split
  · split <;> exact ⟨rfl, rfl⟩
  · exact ⟨rfl, rfl⟩

/-- The hub that has closed the round and set the timer for the next beat. -/
def rolled (hub : Hub) : Hub :=
  MonitorWorld.modifyMonitor (hub.scheduleFor hub.monitor.interval (.own .beat)) fun _ =>
    (hub.monitor.roll hub.now).2.withoutHandlers

/-- The hub that has counted a failed heart. -/
def countFailure (hub : Hub) : Hub := MonitorWorld.modifyMonitor hub Monitor.countFailure

/-- The hub that has taken notice of a failed heart. -/
def loseHeart (hub : Hub) (heart : String) : Hub := hub.countFailure.giveUpHeart heart

/-- The hub that has its handlers back, and has sent a ping. -/
def resumed (hub : Hub) : Hub :=
  MonitorWorld.sendPing (MonitorWorld.modifyMonitor hub fun m =>
    m.withEarlierHandlers [.welcome] [.giveUp])

/-- The hearts that a beat reports as new. -/
def newHearts (hub : Hub) : List String := (hub.monitor.roll hub.now).1.newHearts

/-- The hearts that a beat reports as failed. -/
def failures (hub : Hub) : List String := (hub.monitor.roll hub.now).1.failures

theorem beat_eq (attentive : hub.Attentive) :
    hub.beat =
      (hub.failures.foldl loseHeart (hub.newHearts.foldl welcomeHeart hub.rolled)).resumed := by
  have onNew : (hub.monitor.roll hub.now).2.onNew = [.welcome] := attentive.onNew
  have onFailure : (hub.monitor.roll hub.now).2.onFailure = [.giveUp] := attentive.onFailure
  unfold beat MonitorWorld.beat
  change (MonitorWorld.sendPing (MonitorWorld.modifyMonitor
    (MonitorWorld.announceFailures runHeartDuty (hub.monitor.roll hub.now).2.onFailure hub.failures
      (MonitorWorld.announceNew runHeartDuty (hub.monitor.roll hub.now).2.onNew hub.newHearts
        hub.rolled)) fun m => m.withEarlierHandlers (hub.monitor.roll hub.now).2.onNew
      (hub.monitor.roll hub.now).2.onFailure)) = _
  rw [onNew, onFailure]
  rfl

theorem registry_beat (attentive : hub.Attentive) :
    hub.beat.registry =
      (hub.failures.foldl loseHeart (hub.newHearts.foldl welcomeHeart hub.rolled)).registry := by
  rw [beat_eq attentive]
  rfl

/-! ## A beat as a chain of steps -/

/-- The core of a hub amid a beat. -/
def amid (hub : Hub) (arriving failing : List String) : Core :=
  { hub.core with arriving, failing }

theorem pulse_rolled (hub : Hub) :
    Core.Pulse hub.core (hub.rolled.amid hub.newHearts hub.failures) :=
  .rolled hub.core hub.now _ rfl rfl

theorem pulse_welcomeHeart (consistent : hub.registry.Consistent) (rest failing : List String) :
    Core.Pulse (hub.amid (heart :: rest) failing)
      ((hub.welcomeHeart heart).amid rest failing) := by
  unfold welcomeHeart
  cases waiting : hub.registry.pendingForHeart heart with
  | none => exact .unawaited _ heart rest rfl waiting
  | some id =>
      obtain ⟨record, found, pending, rfl⟩ :=
        (Registry.pendingForHeart_eq_some_iff consistent).mp waiting
      rw [Option.isSome_some, if_pos rfl]
      simp only [amid, core_finishRegistration consistent found pending]
      exact .welcomed (hub.amid (record.heart :: rest) failing) record.heart rest id record rfl
        found pending rfl

theorem pulse_loseHeart (consistent : hub.registry.Consistent) (arriving rest : List String) :
    Core.Pulse (hub.amid arriving (heart :: rest)) ((hub.loseHeart heart).amid arriving rest) := by
  have counted : hub.countFailure.registry.Consistent := consistent
  unfold loseHeart
  cases chosen : hub.countFailure.engineToGiveUp heart with
  | none =>
      rw [giveUpHeart_of_none chosen]
      refine .unconcerned (hub.amid arriving (heart :: rest)) heart rest rfl ?_
      intro id record found active named
      by_cases dead : record.queue ∈ hub.registry.dead
      · exact dead
      · have numbered := consistent.identified found
        rw [← numbered] at found
        have given := (engineToGiveUp_eq_some_iff counted).mpr ⟨found, named, active, dead⟩
        rw [chosen] at given
        contradiction
  | some record =>
      rcases (engineToGiveUp_eq_some_iff counted).mp chosen with ⟨found, named, active, spared⟩
      simp only [amid, core_giveUpHeart_of_some chosen]
      exact .gaveUp (hub.amid arriving (heart :: rest)) heart rest record _ rfl found active named
        spared

theorem pulse_resumed (hub : Hub) : Core.Pulse (hub.amid [] []) hub.resumed.core :=
  .resumed (hub.amid [] []) rfl rfl

theorem pulses_welcomeAll (consistent : hub.registry.Consistent) (arriving failing : List String) :
    Core.Pulses (hub.amid arriving failing)
      ((arriving.foldl welcomeHeart hub).amid [] failing) := by
  induction arriving generalizing hub with
  | nil => exact .refl
  | cons heart rest inductionHypothesis =>
      have first : Core.Pulse (hub.amid (heart :: rest) failing) _ :=
        pulse_welcomeHeart consistent rest failing
      exact .head first (inductionHypothesis (first.consistent consistent))

theorem pulses_loseAll (consistent : hub.registry.Consistent) (failing : List String) :
    Core.Pulses (hub.amid [] failing) ((failing.foldl loseHeart hub).amid [] []) := by
  induction failing generalizing hub with
  | nil => exact .refl
  | cons heart rest inductionHypothesis =>
      have first : Core.Pulse (hub.amid [] (heart :: rest)) _ :=
        pulse_loseHeart consistent [] rest
      exact .head first (inductionHypothesis (first.consistent consistent))

/-- What follows in a beat once the round is closed. -/
theorem pulses_rolled (attentive : hub.Attentive) (consistent : hub.registry.Consistent) :
    Core.Pulses (hub.rolled.amid hub.newHearts hub.failures) hub.beat.core := by
  have opened := (pulse_rolled hub).consistent consistent
  have welcoming := pulses_welcomeAll opened hub.newHearts hub.failures
  have losing := pulses_loseAll (welcoming.consistent opened) hub.failures
  rw [beat_eq attentive]
  exact .tail (welcoming.trans losing) (pulse_resumed _)

theorem pulses_beat (attentive : hub.Attentive) (consistent : hub.registry.Consistent) :
    Core.Pulses hub.core hub.beat.core :=
  .head (pulse_rolled hub) (pulses_rolled attentive consistent)

theorem monitor_finishRegistration (hub : Hub) (heart : String) :
    (hub.finishRegistration heart).core.monitor = hub.monitor := by
  unfold finishRegistration
  cases hub.registry.promote heart with
  | none => rfl
  | some promotion =>
      simp only [core_gaugeEngines]
      split <;> simp only [core_respond, core_notify, core_disarm, core_setRegistry] <;> rfl

theorem monitor_welcomeHeart (hub : Hub) (heart : String) :
    (hub.welcomeHeart heart).monitor = hub.monitor := by
  unfold welcomeHeart
  split
  · exact monitor_finishRegistration hub heart
  · rfl

theorem monitor_loseHeart (hub : Hub) (heart : String) :
    (hub.loseHeart heart).monitor = hub.monitor.countFailure := by
  unfold loseHeart giveUpHeart
  split <;> rfl

/-- Handlers do not register further handlers. -/
theorem monitor_welcomeAll (hub : Hub) (hearts : List String) :
    (hearts.foldl welcomeHeart hub).monitor = hub.monitor := by
  induction hearts generalizing hub with
  | nil => rfl
  | cons heart rest inductionHypothesis =>
      rw [List.foldl_cons, inductionHypothesis, monitor_welcomeHeart]

theorem handlers_loseAll (hub : Hub) (hearts : List String) :
    (hearts.foldl loseHeart hub).monitor.onNew = hub.monitor.onNew ∧
      (hearts.foldl loseHeart hub).monitor.onFailure = hub.monitor.onFailure := by
  induction hearts generalizing hub with
  | nil => exact ⟨rfl, rfl⟩
  | cons heart rest inductionHypothesis =>
      rcases inductionHypothesis (hub.loseHeart heart) with ⟨onNew, onFailure⟩
      rw [monitor_loseHeart] at onNew onFailure
      exact ⟨onNew, onFailure⟩

theorem attentive_beat (attentive : hub.Attentive) : hub.beat.Attentive := by
  have told := monitor_welcomeAll hub.rolled hub.newHearts
  obtain ⟨onNew, onFailure⟩ :=
    handlers_loseAll (hub.newHearts.foldl welcomeHeart hub.rolled) hub.failures
  rw [told] at onNew onFailure
  rw [beat_eq attentive]
  constructor
  · exact congrArg ([HeartDuty.welcome] ++ ·) onNew
  · exact congrArg ([HeartDuty.giveUp] ++ ·) onFailure

/-- The hub without the timer at a position. -/
def dropTimer (hub : Hub) (position : Nat) : Hub :=
  { hub with timers := hub.timers.dropAt position }

variable {position : Nat} {entry : TimerEntry (Reactor.Alarm Duty)}

theorem fire_of_none (empty : hub.timers.entries[position]? = none) : hub.fire position = hub := by
  simp only [fire, empty]

theorem fire_of_cancelled (found : hub.timers.entries[position]? = some entry)
    (cancelled : entry.active = false) : hub.fire position = hub.dropTimer position := by
  simp only [fire, found]
  rw [if_neg (by simp [cancelled])]
  rfl

theorem fire_of_active (found : hub.timers.entries[position]? = some entry)
    (active : entry.active) :
    hub.fire position = runAlarm entry.action (hub.dropTimer position) := by
  simp only [fire, found]
  rw [if_pos active]
  rfl

theorem fire_of_beat (stands : hub.timers.entries[position]? = some entry)
    (active : entry.active) (due : entry.action = .own .beat) :
    hub.fire position = (hub.dropTimer position).beat := by
  rw [fire_of_active stands active, due]
  rfl

/-- The timer of a beat comes off the queue before the beat is made. -/
theorem fired_dropTimer (due : entry.action = .own .beat) :
    hub.core.Fired position entry (hub.dropTimer position).core :=
  .expired (by simp [due, Reactor.Alarm.isRoutine])

/-- When the timer of an engine that waits has its turn, the engine that waits for
the heart by then is withdrawn, if there is one. -/
theorem fired_purgeStalled (consistent : hub.registry.Consistent) {heart : String}
    (active : entry.active) (due : entry.action = .own (.purgeStalled heart)) :
    hub.core.Fired position entry ((hub.dropTimer position).purgeStalled heart).core := by
  cases waiting : hub.registry.pendingForHeart heart with
  | none =>
      have kept : (hub.dropTimer position).purgeStalled heart = _ := purgeStalled_of_none waiting
      rw [kept]
      exact .purgedNothing heart active due waiting
  | some id =>
      rcases (Registry.pendingForHeart_eq_some_iff consistent).mp waiting with
        ⟨record, found, pending, rfl⟩
      have purged : ((hub.dropTimer position).purgeStalled record.heart).core = _ :=
        core_purgeStalled consistent found pending
      rw [purged]
      exact .purged id record active due found pending

/-- When the timer that sweeps an engine has its turn, the engine is withdrawn if
it has not left. -/
theorem fired_sweepStranded (consistent : hub.registry.Consistent) {id : EngineId} {queue : String}
    (active : entry.active) (due : entry.action = .own (.sweepStranded id queue)) :
    hub.core.Fired position entry ((hub.dropTimer position).sweepStranded id queue).core := by
  cases found : hub.registry.engines[id]? with
  | none =>
      have swept : (hub.dropTimer position).sweepStranded id queue = _ :=
        sweepStranded_of_absent found
      rw [swept]
      exact .sweptNobody id queue hub.time active due found
  | some record =>
      have swept : (hub.dropTimer position).sweepStranded id queue = _ :=
        sweepStranded_of_found consistent found
      rw [swept]
      simp only [core_gaugeTasks, core_gaugeEngines, core_disarm, core_setRegistry, core_swept]
      exact .swept id queue hub.time record active due found

/-- What a timer's turn comes to, unless a beat is made. -/
theorem fired_fire (consistent : hub.registry.Consistent)
    (stands : hub.timers.entries[position]? = some entry) :
    hub.core.Fired position entry (hub.fire position).core ∨
      entry.active ∧ entry.action = .own .beat := by
  cases active : entry.active with
  | false =>
      rw [fire_of_cancelled stands active]
      exact Or.inl (.expired (by simp [active]))
  | true =>
      rw [fire_of_active stands active]
      cases due : entry.action with
      | deadline => exact Or.inl (.expired (by simp [due, Reactor.Alarm.isRoutine]))
      | own duty =>
          cases duty with
          | stop => exact Or.inl (.expired (by simp [due, Reactor.Alarm.isRoutine]))
          | beat => exact Or.inr ⟨rfl, rfl⟩
          | purgeStalled heart => exact Or.inl (fired_purgeStalled consistent active due)
          | sweepStranded id queue => exact Or.inl (fired_sweepStranded consistent active due)

end ClusterHub.Hub
