import ClusterHub.Proofs.Hub.Waiting

/-!
# What a hub puts up

A hub only adds to its outbox, until everything in it is sent out.  What an
event adds is told here: a beat greets the engines whose hearts are new and
announces those it gives up, the timer of an engine that waits apologizes to
the one who asked, and a query is answered once.
-/

namespace ClusterHub

namespace Outgoing

/-- The reply to a registration that succeeded. -/
def acknowledgement (recipient : Frame) (id : EngineId) : Outgoing :=
  .reply recipient .registration (.ok (.engine ⟨id⟩)) []

/-- The reply to a registration that came to nothing. -/
def rejection (recipient : Frame) (fault : Fault) : Outgoing :=
  .reply recipient .registration (.ofFault fault) []

/-- Whether a message is the reply to a query. -/
def isReply : Outgoing → Bool
  | .reply .. => true
  | _ => false

end Outgoing

namespace EngineRecord

/-- What is put up when an engine becomes active. -/
def greeting (record : EngineRecord) : List Outgoing :=
  .notice (.joined record.notice) ::
    record.requester.toList.map fun identity => .acknowledgement identity record.id

/-- What is put up when an engine is withdrawn that has waited in vain. -/
def apology (record : EngineRecord) : List Outgoing :=
  record.requester.toList.map fun identity =>
    .rejection identity (Hub.stalledFault record.heart)

/-- What is put up when an engine leaves. -/
def farewell (record : EngineRecord) : Outgoing := .notice (.left record.notice)

end EngineRecord

namespace Registry

variable {r : Registry} {heart : String} {record : EngineRecord}

/-- The engine that waits for a heart. -/
def waiting (r : Registry) (heart : String) : Option EngineRecord :=
  (r.pendingForHeart heart).bind fun id => r.engines[id]?

theorem waiting_eq_some_iff (consistent : r.Consistent) :
    r.waiting heart = some record ↔
      r.engines[record.id]? = some record ∧ record.state = .pending ∧ record.heart = heart := by
  rw [waiting, Option.bind_eq_some_iff]
  constructor
  · rintro ⟨id, awaited, found⟩
    obtain ⟨other, otherFound, pending, named⟩ :=
      (pendingForHeart_eq_some_iff consistent).mp awaited
    cases found.symm.trans otherFound
    rw [consistent.identified found]
    exact ⟨found, pending, named⟩
  · rintro ⟨found, pending, named⟩
    exact ⟨record.id,
      (pendingForHeart_eq_some_iff consistent).mpr ⟨record, found, pending, named⟩, found⟩

end Registry

namespace Hub

variable {hub after : Hub} {event : Event} {id : EngineId} {record : EngineRecord}
  {heart : String}

/-- Whether an engine waits for its heart. -/
def waits (hub : Hub) (id : EngineId) : Prop :=
  ∃ record, hub.registry.engines[id]? = some record ∧ record.state = .pending

theorem waits_iff : hub.waits id ↔
    ((hub.registry.engines[id]?).any fun record => record.state = .pending) = true := by
  simp [waits, Option.any_eq_true]

instance (hub : Hub) (id : EngineId) : Decidable (hub.waits id) := decidable_of_iff' _ waits_iff

/-- What a hub puts up in an event. -/
def posts (hub : Hub) (event : Event) : List Outgoing :=
  (hub.react event).state.outbox.drop hub.state.outbox.length

theorem posts_of_outbox {items : List Outgoing}
    (added : (hub.react event).state.outbox = hub.state.outbox ++ items) :
    hub.posts event = items := by
  rw [posts, added, List.drop_left]

@[simp]
theorem outbox_setRegistry (registry : Registry) :
    (hub.setRegistry registry).state.outbox = hub.state.outbox := rfl

@[simp]
theorem outbox_setLedger (ledger : Ledger) :
    (hub.setLedger ledger).state.outbox = hub.state.outbox := rfl

@[simp]
theorem outbox_modifyMetrics (change : HubMetrics → HubMetrics) :
    (hub.modifyMetrics change).state.outbox = hub.state.outbox := rfl

@[simp]
theorem outbox_disarm (handle : Option TimerHandle) :
    (hub.disarm handle).state.outbox = hub.state.outbox := by
  cases handle <;> rfl

@[simp]
theorem outbox_assignDuty (delay : Duration) (duty : Duty) :
    (hub.assignDuty delay duty).2.state.outbox = hub.state.outbox := rfl

@[simp]
theorem outbox_gaugeEngines : hub.gaugeEngines.state.outbox = hub.state.outbox := rfl

@[simp]
theorem outbox_gaugeTasks : hub.gaugeTasks.state.outbox = hub.state.outbox := rfl

@[simp]
theorem outbox_countRejection : hub.countRejection.state.outbox = hub.state.outbox := rfl

@[simp]
theorem outbox_send (item : Outgoing) :
    (hub.send item).state.outbox = hub.state.outbox ++ [item] := rfl

@[simp]
theorem outbox_notify (notice : Notice) :
    (hub.notify notice).state.outbox = hub.state.outbox ++ [.notice notice] := rfl

@[simp]
theorem outbox_respond (recipient : Frame) (kind : QueryKind) (answer : Answer)
    (trailing : List Frame) :
    (hub.respond recipient kind answer trailing).state.outbox =
      hub.state.outbox ++ [.reply recipient kind (.ok answer) trailing] := rfl

@[simp]
theorem outbox_respondFault (recipient : Frame) (kind : QueryKind) (fault : Fault) :
    (hub.respondFault recipient kind fault).state.outbox =
      hub.state.outbox ++ [.reply recipient kind (.ofFault fault) []] := rfl

theorem outbox_finishRegistration (consistent : hub.registry.Consistent)
    (found : hub.registry.engines[id]? = some record) (pending : record.state = .pending) :
    (hub.finishRegistration record.heart).state.outbox = hub.state.outbox ++ record.greeting := by
  rw [finishRegistration_of_pending consistent found pending, EngineRecord.greeting,
    consistent.identified found]
  cases record.requester <;> simp [Outgoing.acknowledgement]

theorem outbox_purgeStalled (consistent : hub.registry.Consistent)
    (found : hub.registry.engines[id]? = some record) (pending : record.state = .pending) :
    (hub.purgeStalled record.heart).state.outbox = hub.state.outbox ++ record.apology := by
  rw [purgeStalled_of_pending consistent found pending, EngineRecord.apology]
  cases record.requester <;> simp [Outgoing.rejection]

theorem outbox_sweepStranded (engine : EngineId) (queue : String) :
    (hub.sweepStranded engine queue).state.outbox = hub.state.outbox := by
  simp only [sweepStranded, outbox_gaugeTasks, outbox_gaugeEngines]
  split
  · rfl
  · simp only [outbox_disarm]
    rfl

/-! ## Beats -/

/-- What is put up when a heart is reported as new. -/
def greetings (hub : Hub) (heart : String) : List Outgoing :=
  (hub.registry.waiting heart).elim [] EngineRecord.greeting

theorem greetings_of_pending (consistent : hub.registry.Consistent)
    (found : hub.registry.engines[id]? = some record) (pending : record.state = .pending) :
    hub.greetings record.heart = record.greeting := by
  rw [← consistent.identified found] at found
  rw [greetings, (Registry.waiting_eq_some_iff consistent).mpr ⟨found, pending, rfl⟩]
  rfl

theorem outbox_welcomeHeart (consistent : hub.registry.Consistent) (heart : String) :
    (hub.welcomeHeart heart).state.outbox = hub.state.outbox ++ hub.greetings heart := by
  unfold welcomeHeart greetings Registry.waiting
  cases waiting : hub.registry.pendingForHeart heart with
  | none => simp
  | some id =>
      obtain ⟨record, found, pending, rfl⟩ :=
        (Registry.pendingForHeart_eq_some_iff consistent).mp waiting
      rw [Option.isSome_some, if_pos rfl, outbox_finishRegistration consistent found pending,
        Option.bind_some, found]
      rfl

theorem engines_welcomeHeart (consistent : hub.registry.Consistent) (heart : String)
    (id : EngineId) :
    (hub.welcomeHeart heart).registry.engines[id]? =
      (hub.registry.engines[id]?).map (EngineRecord.welcome heart) := by
  cases found : hub.registry.engines[id]? with
  | some record => exact found_welcomeHeart consistent found heart
  | none =>
      unfold welcomeHeart
      cases waiting : hub.registry.pendingForHeart heart with
      | none => exact found
      | some other =>
          obtain ⟨another, otherFound, pending, rfl⟩ :=
            (Registry.pendingForHeart_eq_some_iff consistent).mp waiting
          have different : another.id ≠ id := by
            rintro rfl
            rw [← consistent.identified otherFound, found] at otherFound
            contradiction
          rw [Option.isSome_some, if_pos rfl]
          change (hub.finishRegistration another.heart).core.registry.engines[id]? = _
          rw [core_finishRegistration consistent otherFound pending]
          exact (Registry.getElem?_replace id).trans ((if_neg different).trans found)

theorem consistent_welcomeHeart (consistent : hub.registry.Consistent) (heart : String) :
    (hub.welcomeHeart heart).registry.Consistent := by
  have pulse : Core.Pulse (hub.amid [heart] []) _ := pulse_welcomeHeart consistent [] []
  exact pulse.consistent consistent

/-- A heart that is welcomed makes no difference to those who wait for others. -/
theorem greetings_welcomeHeart (consistent : hub.registry.Consistent) {other : String}
    (different : other ≠ heart) :
    (hub.welcomeHeart heart).greetings other = hub.greetings other := by
  have later := consistent_welcomeHeart consistent heart
  have same : (hub.welcomeHeart heart).registry.waiting other = hub.registry.waiting other := by
    apply Option.ext
    intro record
    rw [Registry.waiting_eq_some_iff later, Registry.waiting_eq_some_iff consistent,
      engines_welcomeHeart consistent, Option.map_eq_some_iff]
    unfold EngineRecord.welcome
    constructor
    · rintro ⟨⟨before, found, rfl⟩, pending, named⟩
      split at pending
      · contradiction
      · next unwelcome =>
          rw [if_neg unwelcome] at found named ⊢
          exact ⟨found, pending, named⟩
    · rintro ⟨found, pending, named⟩
      refine ⟨⟨record, found, if_neg ?_⟩, pending, named⟩
      rintro ⟨_, also⟩
      exact different (named.symm.trans also)
  rw [greetings, same, greetings]

theorem outbox_welcomeAll (consistent : hub.registry.Consistent) {hearts : List String}
    (distinct : hearts.Nodup) :
    (hearts.foldl welcomeHeart hub).state.outbox =
      hub.state.outbox ++ hearts.flatMap hub.greetings := by
  induction hearts generalizing hub with
  | nil => simp
  | cons heart rest inductionHypothesis =>
      rcases List.nodup_cons.mp distinct with ⟨absent, restDistinct⟩
      have same : rest.flatMap (hub.welcomeHeart heart).greetings = rest.flatMap hub.greetings := by
        rw [List.flatMap_def, List.flatMap_def]
        apply congrArg List.flatten
        apply List.map_congr_left
        intro other member
        exact greetings_welcomeHeart consistent fun equal => absent (equal ▸ member)
      rw [List.foldl_cons, inductionHypothesis (consistent_welcomeHeart consistent heart)
        restDistinct, outbox_welcomeHeart consistent, same, List.flatMap_cons, List.append_assoc]

theorem outbox_loseAll (hub : Hub) (hearts : List String) :
    ∃ leaving : List EngineRecord, (hearts.foldl loseHeart hub).state.outbox =
      hub.state.outbox ++ leaving.map EngineRecord.farewell := by
  induction hearts generalizing hub with
  | nil => exact ⟨[], by simp⟩
  | cons heart rest inductionHypothesis =>
      rcases inductionHypothesis (hub.loseHeart heart) with ⟨leaving, added⟩
      rw [List.foldl_cons, added]
      cases chosen : hub.countFailure.engineToGiveUp heart with
      | none =>
          refine ⟨leaving, ?_⟩
          rw [loseHeart, giveUpHeart_of_none chosen]
          rfl
      | some record =>
          refine ⟨record :: leaving, ?_⟩
          have told : (hub.loseHeart heart).state.outbox =
              hub.state.outbox ++ [record.farewell] := by
            rw [loseHeart, giveUpHeart, chosen]
            rfl
          rw [told, List.append_assoc]
          rfl

theorem nodup_newHearts (hub : Hub) : hub.newHearts.Nodup := by
  have distinct := hub.monitor.liveness.arriving.distinct_toList
  apply distinct.imp
  rintro heart other different rfl
  exact different Std.ReflCmp.compare_self

/-- A beat greets the engines that become active, and then announces those that
it gives up. -/
theorem outbox_beat (attentive : hub.Attentive) (consistent : hub.registry.Consistent) :
    ∃ leaving : List EngineRecord, hub.beat.state.outbox =
      hub.state.outbox ++ (hub.newHearts.flatMap hub.greetings ++
        leaving.map EngineRecord.farewell) := by
  have welcomed : (hub.newHearts.foldl welcomeHeart hub.rolled).state.outbox =
      hub.state.outbox ++ hub.newHearts.flatMap hub.greetings := by
    have rolledConsistent := (pulse_rolled hub).consistent consistent
    exact outbox_welcomeAll rolledConsistent hub.nodup_newHearts
  rcases outbox_loseAll (hub.newHearts.foldl welcomeHeart hub.rolled) hub.failures with
    ⟨leaving, lost⟩
  refine ⟨leaving, ?_⟩
  rw [beat_eq attentive]
  change (hub.failures.foldl loseHeart
    (hub.newHearts.foldl welcomeHeart hub.rolled)).state.outbox = _
  rw [lost, welcomed, List.append_assoc]

/-! ## Events -/

theorem outbox_takeIn {message : Message} {kind : TrafficKind}
    (done : hub.takeIn message kind = .ok after) : after.state.outbox = hub.state.outbox := by
  cases kind with
  | queueRequest =>
      rcases saveRequest_eq_ok done with ⟨header, rfl⟩
      rfl
  | queueResult =>
      rcases saveResult_eq_ok done with ⟨header, rfl⟩
      rfl
  | taskRequest =>
      rcases saveRequest_eq_ok done with ⟨header, rfl⟩
      rfl
  | taskResult =>
      rcases saveResult_eq_ok done with ⟨header, rfl⟩
      rfl
  | taskDestination =>
      rcases saveDestination_eq_ok done with ⟨id, engine, queue, _, rfl⟩
      rfl
  | controlRequest =>
      cases done
      rfl
  | controlReply =>
      cases done
      rfl
  | output =>
      rcases saveOutput_eq_ok done with ⟨id, stream, text, rfl⟩
      rfl

/-- Nothing is put up when nothing is added. -/
theorem posts_of_same (same : (hub.react event).state.outbox = hub.state.outbox) :
    hub.posts event = [] :=
  posts_of_outbox (same.trans (List.append_nil _).symm)

theorem posts_traffic (hub : Hub) (message : Message) : hub.posts (.traffic message) = [] := by
  apply posts_of_same
  change (hub.dispatchTraffic message).state.outbox = hub.state.outbox
  unfold dispatchTraffic
  cases (message.text 0).bind TrafficKind.ofTag with
  | error fault => rfl
  | ok kind =>
      simp only [outbox_gaugeTasks]
      cases done : (hub.countTraffic kind).takeIn message kind with
      | ok after =>
          have same : after.state.outbox = _ := outbox_takeIn done
          exact same
      | error fault => rfl

/-- What is taken out of the outbox is not put up. -/
theorem posts_flush (hub : Hub) : hub.posts .flush = [] := List.drop_nil

/-- What is put up in a beat, be it made because it is time for one. -/
theorem posts_of_beats (attentive : hub.Attentive) (consistent : hub.registry.Consistent)
    (beaten : hub.beats event) :
    ∃ leaving : List EngineRecord,
      hub.posts event =
        hub.newHearts.flatMap hub.greetings ++ leaving.map EngineRecord.farewell := by
  rcases beaten with rfl | ⟨position, entry, rfl, stands, active, due⟩
  · rcases outbox_beat attentive consistent with ⟨leaving, added⟩
    exact ⟨leaving, posts_of_outbox added⟩
  · have still : (hub.dropTimer position).Attentive := attentive_of_same attentive rfl
    rcases outbox_beat still consistent with ⟨leaving, added⟩
    refine ⟨leaving, posts_of_outbox ?_⟩
    change (hub.fire position).state.outbox = _
    rw [fire_of_beat stands active due]
    exact added

variable {position : Nat} {entry : TimerEntry (Reactor.Alarm Duty)}

/-- What is put up when the timer of an engine that waits has its turn. -/
theorem posts_of_purge (consistent : hub.registry.Consistent)
    (stands : hub.timers.entries[position]? = some entry) (active : entry.active)
    (due : entry.action = .own (.purgeStalled heart)) :
    hub.posts (.timer position) =
      (hub.registry.waiting heart).elim [] EngineRecord.apology := by
  apply posts_of_outbox
  change (hub.fire position).state.outbox = _
  rw [fire_of_active stands active, due]
  change ((hub.dropTimer position).purgeStalled heart).state.outbox = _
  unfold Registry.waiting
  cases waiting : hub.registry.pendingForHeart heart with
  | none =>
      have kept : (hub.dropTimer position).purgeStalled heart = _ := purgeStalled_of_none waiting
      rw [kept]
      exact (List.append_nil _).symm
  | some id =>
      rcases (Registry.pendingForHeart_eq_some_iff consistent).mp waiting with
        ⟨record, found, pending, rfl⟩
      have purged : ((hub.dropTimer position).purgeStalled record.heart).state.outbox = _ :=
        outbox_purgeStalled consistent found pending
      rw [purged, Option.bind_some, found]
      rfl

/-- What is put up when another timer has its turn is no reply. -/
theorem posts_of_other (unbeaten : ¬ hub.beats (.timer position))
    (unpurging : ∀ entry heart, hub.timers.entries[position]? = some entry → entry.active →
      entry.action ≠ .own (.purgeStalled heart)) :
    hub.posts (.timer position) = [] ∨ hub.posts (.timer position) = [.stop] := by
  have outbox : ∀ items, (hub.fire position).state.outbox = hub.state.outbox ++ items →
      hub.posts (.timer position) = items := fun items added => posts_of_outbox added
  cases stands : hub.timers.entries[position]? with
  | none =>
      rw [fire_of_none stands] at outbox
      exact Or.inl (outbox [] (List.append_nil _).symm)
  | some entry =>
      cases active : entry.active with
      | false =>
          rw [fire_of_cancelled stands active] at outbox
          exact Or.inl (outbox [] (List.append_nil _).symm)
      | true =>
          rw [fire_of_active stands active] at outbox
          cases due : entry.action with
          | deadline =>
              rw [due] at outbox
              exact Or.inr (outbox [.stop] rfl)
          | own duty =>
              rw [due] at outbox
              cases duty with
              | beat => exact absurd (Or.inr ⟨position, entry, rfl, stands, active, due⟩) unbeaten
              | purgeStalled heart => exact absurd due (unpurging entry heart stands active)
              | sweepStranded id queue =>
                  refine Or.inl (outbox [] ?_)
                  exact (outbox_sweepStranded id queue).trans (List.append_nil _).symm
              | stop => exact Or.inr (outbox [.stop] rfl)

end Hub

end ClusterHub
