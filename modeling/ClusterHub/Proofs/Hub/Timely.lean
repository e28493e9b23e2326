import ClusterHub.Proofs.Hub.Beating
import ClusterHub.Proofs.Timer.Order

/-!
# Time in histories

A hub takes no time to deal with a message or a timer, and its settings never
change.  A loop lets time go by only while it waits for its first timer, and it
runs its timers in order, none before it is due.  Histories of that kind are
timely; in those no timer is ever overdue.
-/

namespace ClusterHub.Hub

variable {hub before middle after : Hub} {event : Event} {history past future : List Event}
  {identity : Frame} {message : Message} {kind : QueryKind}

/-- What becomes of a hub's clock, settings and timers within one instant. -/
structure Meanwhile (before after : Hub) : Prop where
  now : after.now = before.now
  config : after.config = before.config
  timers : Timers.Arranged before.now before.timers after.timers

theorem Meanwhile.refl (hub : Hub) : hub.Meanwhile hub :=
  ⟨rfl, rfl, .refl _ _⟩

theorem Meanwhile.trans (first : before.Meanwhile middle) (second : middle.Meanwhile after) :
    before.Meanwhile after where
  now := second.now.trans first.now
  config := second.config.trans first.config
  timers := first.timers.trans (first.now ▸ second.timers)

/-- A change of what a hub keeps. -/
theorem Meanwhile.modifyState (meanwhile : before.Meanwhile after)
    {change : HubState → HubState} (kept : ∀ state, (change state).config = state.config) :
    before.Meanwhile (after.modifyState change) :=
  ⟨meanwhile.now, (kept _).trans meanwhile.config, meanwhile.timers⟩

theorem Meanwhile.setRegistry (meanwhile : before.Meanwhile after) (registry : Registry) :
    before.Meanwhile (after.setRegistry registry) :=
  meanwhile.modifyState fun _ => rfl

theorem Meanwhile.setLedger (meanwhile : before.Meanwhile after) (ledger : Ledger) :
    before.Meanwhile (after.setLedger ledger) :=
  meanwhile.modifyState fun _ => rfl

theorem Meanwhile.modifyMetrics (meanwhile : before.Meanwhile after)
    (change : HubMetrics → HubMetrics) : before.Meanwhile (after.modifyMetrics change) :=
  meanwhile.modifyState fun _ => rfl

theorem Meanwhile.send (meanwhile : before.Meanwhile after) (item : Outgoing) :
    before.Meanwhile (after.send item) :=
  meanwhile.modifyState fun _ => rfl

theorem Meanwhile.disarm (meanwhile : before.Meanwhile after) (handle : Option TimerHandle) :
    before.Meanwhile (after.disarm handle) := by
  apply meanwhile.trans
  cases handle with
  | none => exact .refl after
  | some handle => exact ⟨rfl, rfl, Timers.arranged_cancel handle⟩

theorem Meanwhile.assignDuty (meanwhile : before.Meanwhile after) (delay : Duration) (duty : Duty) :
    before.Meanwhile (after.assignDuty delay duty).2 :=
  meanwhile.trans ⟨rfl, rfl, Timers.arranged_schedule after.now delay _⟩

theorem meanwhile_foldl {α : Type} {step : Hub → α → Hub}
    (each : ∀ (hub : Hub) item, hub.Meanwhile (step hub item)) (items : List α) (hub : Hub) :
    hub.Meanwhile (items.foldl step hub) := by
  induction items generalizing hub with
  | nil => exact .refl hub
  | cons item items inductionHypothesis =>
      exact (each hub item).trans (inductionHypothesis (step hub item))

theorem meanwhile_finishRegistration (hub : Hub) (heart : String) :
    hub.Meanwhile (hub.finishRegistration heart) := by
  unfold finishRegistration
  split
  · exact .refl hub
  · next record deletion registry _ =>
      generalize registry.takeRequester record.id = taken
      rcases taken with ⟨requester, registry⟩
      have told := (((Meanwhile.refl hub).setRegistry registry).disarm deletion).send
        (.notice (.joined record.notice))
      apply Meanwhile.modifyMetrics
      cases requester with
      | none => exact told
      | some identity => exact told.send _

theorem meanwhile_registerEngine (done : hub.registerEngine identity message = .ok after) :
    hub.Meanwhile after := by
  unfold registerEngine at done
  rcases Fault.bind_eq_ok_iff.mp done with ⟨registration, _, done⟩
  rcases Fault.bind_eq_ok_iff.mp done with ⟨⟨id, registry⟩, _, done⟩
  have enrolled := (Meanwhile.refl hub).setRegistry registry
  simp only at done
  split at done
  · cases done
    exact enrolled.trans (meanwhile_finishRegistration _ _)
  · cases done
    exact ((enrolled.assignDuty _ _).setRegistry _).disarm _

theorem meanwhile_purgeStalled (hub : Hub) (heart : String) :
    hub.Meanwhile (hub.purgeStalled heart) := by
  unfold purgeStalled
  split
  · exact .refl hub
  · next record deletion registry _ =>
      have counted : hub.Meanwhile ((hub.setRegistry registry).disarm deletion).countRejection :=
        (((Meanwhile.refl hub).setRegistry registry).disarm deletion).modifyMetrics _
      cases record.requester with
      | none => exact counted
      | some identity => exact counted.send _

theorem meanwhile_welcomeHeart (hub : Hub) (heart : String) :
    hub.Meanwhile (hub.welcomeHeart heart) := by
  unfold welcomeHeart
  split
  · exact meanwhile_finishRegistration hub heart
  · exact .refl hub

theorem meanwhile_giveUpHeart (hub : Hub) (heart : String) :
    hub.Meanwhile (hub.giveUpHeart heart) := by
  unfold giveUpHeart
  split
  · exact .refl hub
  · exact (((Meanwhile.refl hub).setRegistry _).send _).assignDuty _ _

theorem meanwhile_sweepStranded (hub : Hub) (engine : EngineId) (queue : String) :
    hub.Meanwhile (hub.sweepStranded engine queue) := by
  have swept : hub.Meanwhile (hub.swept engine queue) := ⟨rfl, rfl, .refl _ _⟩
  unfold sweepStranded
  apply Meanwhile.modifyMetrics
  apply Meanwhile.modifyMetrics
  split
  · exact swept
  · exact (swept.setRegistry _).disarm _

theorem meanwhile_unregisterEngine (done : hub.unregisterEngine identity message = .ok after) :
    hub.Meanwhile after := by
  unfold unregisterEngine at done
  rcases Fault.bind_eq_ok_iff.mp done with ⟨request, _, done⟩
  rcases Fault.bind_eq_ok_iff.mp done with ⟨record, _, done⟩
  split at done
  · split at done
    · contradiction
    · next record deletion registry _ =>
        cases done
        exact (((((Meanwhile.refl hub).setRegistry registry).disarm deletion).send _).send
          _).modifyMetrics _
  · contradiction

theorem Meanwhile.modifyMonitor (meanwhile : before.Meanwhile after)
    (change : Monitor HeartDuty → Monitor HeartDuty) :
    before.Meanwhile (MonitorWorld.modifyMonitor after change) :=
  ⟨meanwhile.now, meanwhile.config, meanwhile.timers⟩

theorem meanwhile_runHeartDuty (duty : HeartDuty) (heart : String) (hub : Hub) :
    hub.Meanwhile (runHeartDuty duty heart hub) := by
  cases duty with
  | welcome => exact meanwhile_welcomeHeart hub heart
  | giveUp => exact meanwhile_giveUpHeart hub heart

theorem meanwhile_callEach (handlers : List HeartDuty) (heart : String) (hub : Hub) :
    hub.Meanwhile (MonitorWorld.callEach runHeartDuty handlers heart hub) :=
  meanwhile_foldl (fun hub duty => meanwhile_runHeartDuty duty heart hub) handlers hub

theorem meanwhile_beat (hub : Hub) : hub.Meanwhile hub.beat := by
  have again : hub.Meanwhile hub.rolled :=
    ((Meanwhile.refl hub).assignDuty hub.monitor.interval .beat).modifyMonitor _
  let told := (hub.monitor.roll hub.now).2
  have announced := again.trans (meanwhile_foldl
    (fun hub heart => meanwhile_callEach told.onNew heart hub) hub.newHearts hub.rolled)
  have lost := announced.trans (meanwhile_foldl
    (fun hub heart => ((Meanwhile.refl hub).modifyMonitor Monitor.countFailure).trans
      (meanwhile_callEach told.onFailure heart _)) hub.failures _)
  have resumed := lost.modifyMonitor fun m => m.withEarlierHandlers told.onNew told.onFailure
  exact ⟨resumed.now, resumed.config, resumed.timers⟩

theorem meanwhile_resubmitTask (hub : Hub) (task : String × Frame) :
    hub.Meanwhile (hub.resubmitTask task) :=
  ((Meanwhile.refl hub).send _).setLedger _

theorem meanwhile_answerQuery (done : hub.answerQuery identity message kind = .ok after) :
    hub.Meanwhile after := by
  cases reading : kind.isReading with
  | true =>
      rcases answerQuery_of_reading reading done with ⟨answer, trailing, rfl⟩
      exact (Meanwhile.refl hub).send _
  | false =>
      cases kind with
      | purge =>
          rcases Fault.bind_eq_ok_iff.mp done with ⟨order, _, done⟩
          simp only at done
          split at done
          · cases done
            exact (((Meanwhile.refl hub).setLedger _).modifyMetrics _).send _
          · rcases Fault.bind_eq_ok_iff.mp done with ⟨⟨count, ledger⟩, _, done⟩
            cases done
            exact (((Meanwhile.refl hub).setLedger _).modifyMetrics _).send _
      | resubmit =>
          rcases Fault.bind_eq_ok_iff.mp done with ⟨order, _, done⟩
          rcases Fault.bind_eq_ok_iff.mp done with ⟨tasks, _, done⟩
          cases done
          exact (meanwhile_foldl meanwhile_resubmitTask tasks hub).send _
      | shutdown =>
          cases done
          exact (((Meanwhile.refl hub).send _).send _).assignDuty _ _
      | registration => exact meanwhile_registerEngine done
      | unregistration => exact meanwhile_unregisterEngine done
      | _ => contradiction

theorem meanwhile_refuse (hub : Hub) (identity : Frame) (kind : QueryKind) (fault : Fault) :
    hub.Meanwhile (hub.refuse identity kind fault) := by
  unfold refuse
  split
  · apply Meanwhile.send
    split
    · exact (Meanwhile.refl hub).modifyMetrics _
    · exact .refl hub
  · exact .refl hub

theorem meanwhile_dispatchQuery (hub : Hub) (message : Message) :
    hub.Meanwhile (hub.dispatchQuery message) := by
  unfold dispatchQuery
  split
  · next identity kind _ _ =>
      have counted : hub.Meanwhile (hub.countQuery kind) := (Meanwhile.refl hub).modifyMetrics _
      simp only
      cases done : (hub.countQuery kind).answerQuery identity message kind with
      | ok after => exact counted.trans (meanwhile_answerQuery done)
      | error fault => exact counted.trans (meanwhile_refuse _ identity kind fault)
  · exact .refl hub

theorem meanwhile_takeIn {kind : TrafficKind} (done : hub.takeIn message kind = .ok after) :
    hub.Meanwhile after := by
  cases kind with
  | queueRequest =>
      rcases saveRequest_eq_ok done with ⟨header, rfl⟩
      exact (Meanwhile.refl hub).setLedger _
  | queueResult =>
      rcases saveResult_eq_ok done with ⟨header, rfl⟩
      exact (Meanwhile.refl hub).setLedger _
  | taskRequest =>
      rcases saveRequest_eq_ok done with ⟨header, rfl⟩
      exact (Meanwhile.refl hub).setLedger _
  | taskResult =>
      rcases saveResult_eq_ok done with ⟨header, rfl⟩
      exact (Meanwhile.refl hub).setLedger _
  | taskDestination =>
      rcases saveDestination_eq_ok done with ⟨id, engine, queue, _, rfl⟩
      exact (Meanwhile.refl hub).setLedger _
  | controlRequest =>
      cases done
      exact .refl hub
  | controlReply =>
      cases done
      exact .refl hub
  | output =>
      rcases saveOutput_eq_ok done with ⟨id, stream, text, rfl⟩
      exact (Meanwhile.refl hub).setLedger _

theorem meanwhile_dispatchTraffic (hub : Hub) (message : Message) :
    hub.Meanwhile (hub.dispatchTraffic message) := by
  unfold dispatchTraffic
  cases (message.text 0).bind TrafficKind.ofTag with
  | error fault => exact .refl hub
  | ok kind =>
      have counted : hub.Meanwhile (hub.countTraffic kind) := (Meanwhile.refl hub).modifyMetrics _
      simp only
      apply Meanwhile.modifyMetrics
      cases done : (hub.countTraffic kind).takeIn message kind with
      | ok after => exact counted.trans (meanwhile_takeIn done)
      | error fault => exact counted

/-! ## Events -/

theorem meanwhile_runAlarm (alarm : Reactor.Alarm Duty) (hub : Hub) :
    hub.Meanwhile (runAlarm alarm hub) := by
  cases alarm with
  | deadline => exact (Meanwhile.refl hub).send _
  | own duty =>
      cases duty with
      | beat => exact meanwhile_beat hub
      | purgeStalled heart => exact meanwhile_purgeStalled hub heart
      | sweepStranded engine queue => exact meanwhile_sweepStranded hub engine queue
      | stop => exact (Meanwhile.refl hub).send _

theorem meanwhile_fire (hub : Hub) (position : Nat) : hub.Meanwhile (hub.fire position) := by
  have dropped : hub.Meanwhile (hub.dropTimer position) :=
    ⟨rfl, rfl, Timers.arranged_dropAt position⟩
  unfold fire
  split
  · exact .refl hub
  · next entry _ =>
      simp only
      split
      · exact dropped.trans (meanwhile_runAlarm entry.action _)
      · exact dropped

/-- Time goes by only when it is let go by. -/
theorem meanwhile_react (hub : Hub) (instant : ∀ d, event ≠ .elapse d) :
    hub.Meanwhile (hub.react event) := by
  cases event with
  | query message => exact meanwhile_dispatchQuery hub message
  | traffic message => exact meanwhile_dispatchTraffic hub message
  | pong message => exact ⟨rfl, rfl, .refl _ _⟩
  | beat => exact meanwhile_beat hub
  | timer position => exact meanwhile_fire hub position
  | elapse d => exact absurd rfl (instant d)
  | flush => exact ⟨rfl, rfl, .refl _ _⟩

theorem config_react (hub : Hub) (event : Event) : (hub.react event).config = hub.config := by
  by_cases instant : ∀ d, event ≠ .elapse d
  · exact (meanwhile_react hub instant).config
  · cases event with
    | elapse d => rfl
    | _ => exact absurd nofun instant

theorem config_run (hub : Hub) (history : List Event) : (hub.run history).config = hub.config := by
  induction history generalizing hub with
  | nil => rfl
  | cons event history inductionHypothesis =>
      rw [run_cons, inductionHypothesis, config_react]

/-! ## Histories -/

/-- Whether an event can come next in a loop: it lets time go by only until the
first timer is due, and a timer has its turn only if it is the first and due.
Beats are made by timers. -/
def allows (hub : Hub) : Event → Bool
  | .beat => false
  | .timer position =>
      position = 0 && hub.timers.entries.head?.all fun entry => entry.deadline ≤ hub.now
  | .elapse d => (hub.timers.nextWait hub.now).all fun wait => d ≤ wait
  | _ => true

/-- A timer that has its turn is the first, and due. -/
theorem first_of_allows {position : Nat} {entry : TimerEntry (Reactor.Alarm Duty)}
    (allowed : hub.allows (.timer position))
    (stands : hub.timers.entries[position]? = some entry) :
    position = 0 ∧ entry.deadline ≤ hub.now := by
  rcases Bool.and_eq_true_iff.mp allowed with ⟨foremost, due⟩
  cases of_decide_eq_true foremost
  rw [List.head?_eq_getElem?, stands] at due
  exact ⟨rfl, of_decide_eq_true due⟩

/-- Whether a history is one that a loop can bring about. -/
def isTimely (hub : Hub) : List Event → Bool
  | [] => true
  | event :: history => hub.allows event && (hub.react event).isTimely history

theorem isTimely_cons :
    hub.isTimely (event :: history) ↔ hub.allows event ∧ (hub.react event).isTimely history :=
  Bool.and_eq_true_iff

theorem isTimely_append :
    hub.isTimely (past ++ future) ↔ hub.isTimely past ∧ (hub.run past).isTimely future := by
  induction past generalizing hub with
  | nil => simp [isTimely]
  | cons event past inductionHypothesis =>
      rw [List.cons_append, isTimely_cons, isTimely_cons, inductionHypothesis, run_cons, and_assoc]

/-- The timers stand in order, and none is overdue. -/
structure Punctual (hub : Hub) : Prop where
  ordered : hub.timers.Ordered
  ahead : ∀ entry ∈ hub.timers.entries, hub.now ≤ entry.deadline

theorem Punctual.meanwhile (punctual : before.Punctual) (meanwhile : before.Meanwhile after) :
    after.Punctual where
  ordered := meanwhile.timers.ordered punctual.ordered
  ahead entry member := by
    rw [meanwhile.now]
    rcases meanwhile.timers.ahead entry member with early | ⟨other, otherMember, same⟩
    · exact early
    · rw [← same]
      exact punctual.ahead other otherMember

theorem IsAttached.punctual (attached : hub.IsAttached) : hub.Punctual := by
  rcases attached with ⟨config, engineAddresses, clientAddresses, now, rfl⟩
  have idle : (start config engineAddresses clientAddresses now).Punctual :=
    ⟨⟨.nil, nofun⟩, nofun⟩
  exact idle.meanwhile ((Meanwhile.refl _).assignDuty config.heartbeat .beat)

theorem Punctual.elapse (punctual : hub.Punctual) {d : Duration}
    (allowed : hub.allows (.elapse d)) : (hub.react (.elapse d)).Punctual where
  ordered := punctual.ordered
  ahead entry member := by
    change hub.now + d ≤ entry.deadline
    have member : entry ∈ hub.timers.entries := member
    have allowed : (hub.timers.nextWait hub.now).all (fun wait => d ≤ wait) = true := allowed
    cases stands : hub.timers.entries with
    | nil =>
        rw [stands] at member
        contradiction
    | cons first rest =>
        have head : hub.timers.entries[0]? = some first := by rw [stands]; rfl
        have early := punctual.ahead first (List.mem_of_getElem? head)
        have later := punctual.ordered.le_of_first head member
        rw [Timers.nextWait, stands] at allowed
        have wait : d ≤ hub.now.until first.deadline := of_decide_eq_true allowed
        have enough := (Int.le_toNat (Int.sub_nonneg_of_le early)).mp wait
        exact Int.le_trans (Int.add_le_of_le_sub_left enough) later

theorem Punctual.react (punctual : hub.Punctual) (allowed : hub.allows event) :
    (hub.react event).Punctual := by
  by_cases instant : ∀ d, event ≠ .elapse d
  · exact punctual.meanwhile (meanwhile_react hub instant)
  · cases event with
    | elapse d => exact punctual.elapse allowed
    | _ => exact absurd nofun instant

theorem punctual_run (punctual : hub.Punctual) (timely : hub.isTimely history) :
    (hub.run history).Punctual := by
  induction history generalizing hub with
  | nil => exact punctual
  | cons event history inductionHypothesis =>
      rcases isTimely_cons.mp timely with ⟨allowed, later⟩
      exact inductionHypothesis (punctual.react allowed) later

end ClusterHub.Hub
