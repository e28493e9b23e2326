import ClusterHub.Proofs.Engine.Standing
import ClusterHub.Proofs.Heart.Round
import ClusterHub.Proofs.Hub.Replies
import ClusterHub.Proofs.Hub.Rounds

/-!
# What is broadcast of an engine

Everybody is told when an engine becomes active, when it is given up, and when
it leaves on request.  An event moves an engine in one of a few ways, and each
way has its notices.  What an engine was given up for does not keep it from
leaving on request, and then everybody is told a second time.
-/

namespace ClusterHub

variable {id : EngineId} {record : EngineRecord}

/-- The notice of an engine that a message is, if it is one. -/
def Outgoing.noticeOf (id : EngineId) : Outgoing → Option Notice
  | .notice (.joined engine) => if engine.id = id then some (.joined engine) else none
  | .notice (.left engine) => if engine.id = id then some (.left engine) else none
  | _ => none

theorem EngineRecord.notices_greeting :
    record.greeting.filterMap (Outgoing.noticeOf id) =
      if record.id = id then [.joined record.notice] else [] := by
  have others : (record.requester.toList.map fun identity =>
      Outgoing.acknowledgement identity record.id).filterMap (Outgoing.noticeOf id) = [] := by
    cases record.requester <;> rfl
  rw [greeting, List.filterMap_cons, others]
  by_cases own : record.id = id <;> simp [Outgoing.noticeOf, notice, own]

theorem EngineRecord.notices_apology :
    record.apology.filterMap (Outgoing.noticeOf id) = [] := by
  unfold apology
  cases record.requester <;> rfl

theorem EngineRecord.notices_farewell :
    [record.farewell].filterMap (Outgoing.noticeOf id) =
      if record.id = id then [.left record.notice] else [] := by
  by_cases own : record.id = id <;> simp [Outgoing.noticeOf, farewell, notice, own]

namespace Standing

/-- What everybody has been told of an engine that is there. -/
def told : Standing → List Notice
  | .absent | .waiting => []
  | .member engine => [.joined engine]
  | .lost engine => [.joined engine, .left engine]

/-- How an event can move an engine, and what is broadcast of it, given whether
its heart is reported to have failed and whether it is asked to leave. -/
inductive Turn (failed asked : Prop) : Standing → List Notice → Standing → Prop
  /-- It stays where it is. -/
  | stays (place : Standing) (unasked : ¬ asked)
      (beating : ∀ engine, place = .member engine → ¬ failed) : Turn failed asked place [] place
  | registers : Turn failed asked .absent [] .waiting
  /-- It becomes active. -/
  | joins (place : Standing) (engine : EngineNotice) (new : place = .absent ∨ place = .waiting) :
      Turn failed asked place [.joined engine] (.member engine)
  /-- It has waited too long. -/
  | expires : Turn failed asked .waiting [] .absent
  /-- It is given up. -/
  | fails (engine : EngineNotice) (failing : failed) :
      Turn failed asked (.member engine) [.left engine] (.lost engine)
  /-- Its time of grace is over. -/
  | swept (engine : EngineNotice) (unasked : ¬ asked) : Turn failed asked (.lost engine) [] .absent
  /-- It leaves on request, be it given up or not. -/
  | leaves (place : Standing) (engine : EngineNotice) (asks : asked)
      (old : place = .member engine ∨ place = .lost engine) :
      Turn failed asked place [.left engine] .absent

end Standing

namespace Hub

variable {hub after : Hub} {event : Event} {heart : String} {message : Message}
  {identity : Frame} {kind : QueryKind}

/-- What an event broadcasts of an engine. -/
def noticesOf (hub : Hub) (id : EngineId) (event : Event) : List Notice :=
  (hub.posts event).filterMap (Outgoing.noticeOf id)

theorem noticesOf_of_outbox {items : List Outgoing}
    (added : (hub.react event).state.outbox = hub.state.outbox ++ items) :
    hub.noticesOf id event = items.filterMap (Outgoing.noticeOf id) :=
  congrArg _ (posts_of_outbox added)

/-- Whether a beat reports that the heart of an engine has failed. -/
def losesHeart (hub : Hub) (id : EngineId) (event : Event) : Prop :=
  hub.beats event ∧
    ∃ record, hub.registry.engines[id]? = some record ∧ record.heart ∈ hub.failures

/-- A well-formed request to leave. -/
structure IsUnregistration (message : Message) (identity : Frame) (request : Unregistration) :
    Prop where
  sender : message.frame 0 = .ok identity
  tag : (message.text 1).bind QueryKind.ofTag = .ok .unregistration
  payload : message.payload Unregistration 2 = .ok request

/-- Whether an active engine is asked to leave. -/
def leaves (hub : Hub) (id : EngineId) (event : Event) : Prop :=
  ∃ message identity record, event = .query message ∧
    IsUnregistration message identity ⟨record.queue⟩ ∧
    hub.registry.engines[id]? = some record ∧ record.state = .active

/-! ## Beats -/

/-- A step puts up what there is to be told of an engine from then on and was not
told before. -/
def Tells (before after : Hub) (id : EngineId) : Prop :=
  ∃ items, after.state.outbox = before.state.outbox ++ items ∧
    (after.registry.standing id).told =
      (before.registry.standing id).told ++ items.filterMap (Outgoing.noticeOf id)

theorem Tells.refl (hub : Hub) (id : EngineId) : hub.Tells hub id := ⟨[], by simp, by simp⟩

theorem Tells.trans {before middle : Hub} (first : before.Tells middle id)
    (second : middle.Tells after id) : before.Tells after id := by
  rcases first with ⟨items, outbox, told⟩
  rcases second with ⟨more, laterOutbox, laterTold⟩
  refine ⟨items ++ more, ?_, ?_⟩
  · rw [laterOutbox, outbox, List.append_assoc]
  · rw [laterTold, told, List.filterMap_append, List.append_assoc]

theorem registry_finishRegistration (consistent : hub.registry.Consistent)
    (found : hub.registry.engines[id]? = some record) (pending : record.state = .pending) :
    (hub.finishRegistration record.heart).registry = hub.registry.replace record.activated :=
  congrArg Core.registry (core_finishRegistration consistent found pending)

theorem tells_welcomeHeart {arriving failing : List String}
    (coherent : (hub.amid arriving failing).Coherent) (heart : String) (id : EngineId) :
    hub.Tells (hub.welcomeHeart heart) id := by
  have consistent : hub.registry.Consistent := coherent.consistent
  unfold welcomeHeart
  cases waiting : hub.registry.pendingForHeart heart with
  | none => exact .refl hub id
  | some other =>
      rcases (Registry.pendingForHeart_eq_some_iff consistent).mp waiting with
        ⟨record, found, pending, rfl⟩
      have spared : record.queue ∉ hub.registry.dead := by
        intro dead
        have active := coherent.active_of_dead found dead
        rw [pending] at active
        contradiction
      have numbered := consistent.identified found
      rw [Option.isSome_some, if_pos rfl]
      refine ⟨record.greeting, outbox_finishRegistration consistent found pending, ?_⟩
      rw [registry_finishRegistration consistent found pending,
        Registry.standing_replace consistent found spared, EngineRecord.notices_greeting, numbered]
      by_cases own : other = id
      · subst own
        rw [if_pos rfl, if_pos rfl, (Registry.Stands.waiting record found pending).standing_eq]
        rfl
      · rw [if_neg own, if_neg own, List.append_nil]

theorem tells_welcomeAll {hearts failing : List String}
    (coherent : (hub.amid hearts failing).Coherent) (id : EngineId) :
    hub.Tells (hearts.foldl welcomeHeart hub) id := by
  induction hearts generalizing hub with
  | nil => exact .refl hub id
  | cons heart rest inductionHypothesis =>
      have first : Core.Pulse (hub.amid (heart :: rest) failing) _ :=
        pulse_welcomeHeart coherent.consistent rest failing
      exact (tells_welcomeHeart coherent heart id).trans
        (inductionHypothesis (first.coherent coherent))

theorem registry_giveUpHeart_of_some (chosen : hub.engineToGiveUp heart = some record) :
    (hub.giveUpHeart heart).registry = hub.registry.markDead record.queue :=
  congrArg Core.registry (core_giveUpHeart_of_some chosen)

theorem tells_loseHeart (consistent : hub.registry.Consistent) (heart : String) (id : EngineId) :
    hub.Tells (hub.loseHeart heart) id := by
  unfold loseHeart
  cases chosen : hub.countFailure.engineToGiveUp heart with
  | none =>
      rw [giveUpHeart_of_none chosen]
      exact .refl hub id
  | some record =>
      have counted : hub.countFailure.registry.Consistent := consistent
      rcases (engineToGiveUp_eq_some_iff counted).mp chosen with ⟨found, _, active, spared⟩
      refine ⟨[record.farewell], ?_, ?_⟩
      · rw [giveUpHeart, chosen]
        rfl
      · rw [registry_giveUpHeart_of_some chosen,
          Registry.standing_markDead counted found active, EngineRecord.notices_farewell]
        by_cases own : record.id = id
        · subst own
          have member : hub.registry.Stands record.id (.member record.notice) :=
            .member record found active spared
          rw [if_pos rfl, if_pos rfl, member.standing_eq]
          rfl
        · rw [if_neg own, if_neg own, List.append_nil]
          rfl

theorem tells_loseAll (consistent : hub.registry.Consistent) (hearts : List String)
    (id : EngineId) : hub.Tells (hearts.foldl loseHeart hub) id := by
  induction hearts generalizing hub with
  | nil => exact .refl hub id
  | cons heart rest inductionHypothesis =>
      have first : Core.Pulse (hub.amid [] (heart :: rest)) _ :=
        pulse_loseHeart consistent [] rest
      exact (tells_loseHeart consistent heart id).trans
        (inductionHypothesis (first.consistent consistent))

theorem tells_beat (orderly : hub.Orderly) (id : EngineId) : hub.Tells hub.beat id := by
  have opened := (pulse_rolled hub).coherent orderly.coherent
  have welcoming := pulses_welcomeAll opened.consistent hub.newHearts hub.failures
  have welcomed := tells_welcomeAll opened id
  have lost := tells_loseAll (welcoming.consistent opened.consistent) hub.failures id
  rw [beat_eq orderly.attentive]
  exact welcomed.trans lost

theorem dead_welcomeHeart (consistent : hub.registry.Consistent) (heart : String) :
    (hub.welcomeHeart heart).registry.dead = hub.registry.dead := by
  unfold welcomeHeart
  cases waiting : hub.registry.pendingForHeart heart with
  | none => rfl
  | some id =>
      rcases (Registry.pendingForHeart_eq_some_iff consistent).mp waiting with
        ⟨record, found, pending, rfl⟩
      rw [Option.isSome_some, if_pos rfl, registry_finishRegistration consistent found pending]
      rfl

theorem dead_welcomeAll (consistent : hub.registry.Consistent) (hearts : List String) :
    (hearts.foldl welcomeHeart hub).registry.dead = hub.registry.dead := by
  induction hearts generalizing hub with
  | nil => rfl
  | cons heart rest inductionHypothesis =>
      have kept := consistent_welcomeHeart consistent heart
      exact (inductionHypothesis kept).trans (dead_welcomeHeart consistent heart)

theorem mem_dead_loseHeart (consistent : hub.registry.Consistent)
    (found : hub.registry.engines[id]? = some record) (heart : String) :
    record.queue ∈ (hub.loseHeart heart).registry.dead ↔
      record.queue ∈ hub.registry.dead ∨ record.state = .active ∧ record.heart = heart := by
  have counted : hub.countFailure.registry.Consistent := consistent
  have numbered := consistent.identified found
  unfold loseHeart
  cases chosen : hub.countFailure.engineToGiveUp heart with
  | none =>
      rw [giveUpHeart_of_none chosen]
      change record.queue ∈ hub.registry.dead ↔ _
      refine ⟨Or.inl, ?_⟩
      rintro (dead | ⟨active, named⟩)
      · exact dead
      · refine Classical.byContradiction fun spared => ?_
        rw [← numbered] at found
        have given := (engineToGiveUp_eq_some_iff counted).mpr ⟨found, named, active, spared⟩
        rw [chosen] at given
        contradiction
  | some other =>
      rcases (engineToGiveUp_eq_some_iff counted).mp chosen with
        ⟨otherFound, otherNamed, otherActive, _⟩
      rw [registry_giveUpHeart_of_some chosen, Registry.mem_dead_markDead]
      change other.queue = record.queue ∨ record.queue ∈ hub.registry.dead ↔ _
      constructor
      · rintro (same | dead)
        · cases consistent.eq_of_queue otherFound found same
          cases otherFound.symm.trans found
          exact Or.inr ⟨otherActive, otherNamed⟩
        · exact Or.inl dead
      · rintro (dead | ⟨_, named⟩)
        · exact Or.inr dead
        · cases consistent.eq_of_heart otherFound found (otherNamed.trans named.symm)
          cases otherFound.symm.trans found
          exact Or.inl rfl

/-- The engines whose hearts have failed are those that are given up, if they are
active. -/
theorem mem_dead_loseAll (consistent : hub.registry.Consistent)
    (found : hub.registry.engines[id]? = some record) (hearts : List String) :
    record.queue ∈ (hearts.foldl loseHeart hub).registry.dead ↔
      record.queue ∈ hub.registry.dead ∨ record.state = .active ∧ record.heart ∈ hearts := by
  induction hearts generalizing hub with
  | nil => simp
  | cons heart rest inductionHypothesis =>
      have first : Core.Pulse (hub.amid [] (heart :: rest)) _ :=
        pulse_loseHeart consistent [] rest
      have still : (hub.loseHeart heart).registry.engines[id]? = some record := by
        rw [show (hub.loseHeart heart).registry.engines = hub.registry.engines from
          engines_loseAll hub [heart]]
        exact found
      rw [List.foldl_cons, inductionHypothesis (first.consistent consistent) still,
        mem_dead_loseHeart consistent found, List.mem_cons, or_assoc, ← and_or_left]

theorem mem_alive_of_mem_failures (failed : heart ∈ hub.failures) : heart ∈ hub.core.alive :=
  (Liveness.mem_missed.mp
    (Liveness.mem_failing.mp (Liveness.mem_failures_closeRound.mp failed)).2).1

/-- The heart of an engine that waits does not fail. -/
theorem not_mem_failures_of_pending (orderly : hub.Orderly)
    (found : hub.registry.engines[id]? = some record) (pending : record.state = .pending) :
    record.heart ∉ hub.failures := fun failed =>
  List.not_mem_nil ((orderly.coherent.waiting found pending).2 (mem_alive_of_mem_failures failed))

theorem mem_dead_beat (orderly : hub.Orderly) (found : hub.registry.engines[id]? = some record) :
    record.queue ∈ hub.beat.registry.dead ↔
      record.queue ∈ hub.registry.dead ∨ record.heart ∈ hub.failures := by
  have opened := (pulse_rolled hub).consistent orderly.consistent
  have rolledFound : hub.rolled.registry.engines[id]? = some record := found
  have welcomed := found_welcomeAll opened rolledFound hub.newHearts
  have welcoming := pulses_welcomeAll opened hub.newHearts hub.failures
  have losing := mem_dead_loseAll (welcoming.consistent opened) welcomed hub.failures
  have rolled : hub.rolled.registry.dead = hub.registry.dead := rfl
  rw [dead_welcomeAll opened, rolled] at losing
  rw [registry_beat orderly.attentive]
  cases state : record.state with
  | pending =>
      have well := not_mem_failures_of_pending orderly found state
      split at losing <;> simpa [EngineRecord.activated, well] using losing
  | active =>
      rw [if_neg (by simp [state])] at losing
      simpa [state] using losing

theorem absent_welcomeAll (consistent : hub.registry.Consistent)
    (absent : hub.registry.engines[id]? = none) (hearts : List String) :
    (hearts.foldl welcomeHeart hub).registry.engines[id]? = none := by
  induction hearts generalizing hub with
  | nil => exact absent
  | cons heart rest inductionHypothesis =>
      apply inductionHypothesis (consistent_welcomeHeart consistent heart)
      rw [engines_welcomeHeart consistent, absent]
      rfl

theorem absent_beat (orderly : hub.Orderly) (absent : hub.registry.engines[id]? = none) :
    hub.beat.registry.engines[id]? = none := by
  have opened := (pulse_rolled hub).consistent orderly.consistent
  rw [registry_beat orderly.attentive, engines_loseAll]
  exact absent_welcomeAll opened absent hub.newHearts

/-- A beat makes engines active that wait, or gives up active ones, and broadcasts
just that. -/
theorem turn_beat (orderly : hub.Orderly) {failed asked : Prop}
    (failing : failed ↔
      ∃ record, hub.registry.engines[id]? = some record ∧ record.heart ∈ hub.failures)
    (unasked : ¬ asked) :
    ∃ items, hub.beat.state.outbox = hub.state.outbox ++ items ∧
      (hub.registry.standing id).Turn failed asked (items.filterMap (Outgoing.noticeOf id))
        (hub.beat.registry.standing id) := by
  rcases tells_beat orderly id with ⟨items, outbox, told⟩
  refine ⟨items, outbox, ?_⟩
  generalize items.filterMap (Outgoing.noticeOf id) = said at told ⊢
  have before := hub.registry.stands id
  generalize hub.registry.standing id = place at told before ⊢
  -- Where the engine stands afterwards tells what was said of it.
  cases before with
  | absent absent =>
      have after : hub.beat.registry.Stands id .absent := .absent (absent_beat orderly absent)
      rw [after.standing_eq] at told ⊢
      cases told
      exact .stays .absent unasked nofun
  | waiting record found pending =>
      have well := not_mem_failures_of_pending orderly found pending
      have spared : record.queue ∉ hub.beat.registry.dead := by
        rw [mem_dead_beat orderly found]
        rintro (dead | failed)
        · have active := orderly.coherent.active_of_dead found dead
          rw [pending] at active
          contradiction
        · exact well failed
      have later := found_beat orderly found
      by_cases new : record.heart ∈ hub.newHearts
      · rw [if_pos ⟨pending, new⟩] at later
        have after : hub.beat.registry.Stands id (.member record.activated.notice) :=
          .member record.activated later rfl spared
        rw [after.standing_eq] at told ⊢
        cases told
        exact .joins .waiting _ (Or.inr rfl)
      · rw [if_neg fun both => new both.2] at later
        have after : hub.beat.registry.Stands id .waiting := .waiting record later pending
        rw [after.standing_eq] at told ⊢
        cases told
        exact .stays .waiting unasked nofun
  | member record found active spared =>
      have later := found_beat orderly found
      rw [if_neg (by simp [active])] at later
      by_cases silent : record.heart ∈ hub.failures
      · have after : hub.beat.registry.Stands id (.lost record.notice) :=
          .lost record later active ((mem_dead_beat orderly found).mpr (Or.inr silent))
        rw [after.standing_eq] at told ⊢
        cases told
        exact .fails _ (failing.mpr ⟨record, found, silent⟩)
      · have still : record.queue ∉ hub.beat.registry.dead := by
          rw [mem_dead_beat orderly found, not_or]
          exact ⟨spared, silent⟩
        have after : hub.beat.registry.Stands id (.member record.notice) :=
          .member record later active still
        rw [after.standing_eq] at told ⊢
        cases told
        refine .stays _ unasked fun _ _ failed => ?_
        rcases failing.mp failed with ⟨other, otherFound, failed⟩
        cases found.symm.trans otherFound
        exact silent failed
  | lost record found active dead =>
      have later := found_beat orderly found
      rw [if_neg (by simp [active])] at later
      have after : hub.beat.registry.Stands id (.lost record.notice) :=
        .lost record later active ((mem_dead_beat orderly found).mpr (Or.inl dead))
      rw [after.standing_eq] at told ⊢
      cases told
      exact .stays _ unasked nofun

/-- An event moves an engine in one of the ways there are, and broadcasts what goes
with it. -/
def Turns (hub : Hub) (id : EngineId) (event : Event) : Prop :=
  (hub.registry.standing id).Turn (hub.losesHeart id event) (hub.leaves id event)
    (hub.noticesOf id event) ((hub.react event).registry.standing id)

theorem not_leaves_of_beats (beaten : hub.beats event) : ¬ hub.leaves id event := by
  rintro ⟨message, _, _, rfl, _⟩
  exact not_beats_query hub message beaten

/-- An event that does not concern an engine leaves it where it is. -/
theorem turns_of_same (unbeaten : ¬ hub.beats event) (unasked : ¬ hub.leaves id event)
    (same : (hub.react event).registry.standing id = hub.registry.standing id)
    (silent : hub.noticesOf id event = []) : hub.Turns id event := by
  unfold Turns
  rw [same, silent]
  exact .stays _ unasked fun _ _ failed => unbeaten failed.1

theorem turns_of_beats (orderly : hub.Orderly) (beaten : hub.beats event) (id : EngineId) :
    hub.Turns id event := by
  have failing : hub.losesHeart id event ↔ ∃ record, hub.registry.engines[id]? = some record ∧
      record.heart ∈ hub.failures := and_iff_right beaten
  have unasked : ¬ hub.leaves id event := not_leaves_of_beats beaten
  unfold Turns
  rcases beaten with rfl | ⟨position, entry, rfl, stands, active, due⟩
  · rcases turn_beat orderly failing unasked with ⟨items, outbox, turn⟩
    have said : hub.noticesOf id .beat = _ := noticesOf_of_outbox outbox
    rw [said]
    exact turn
  · rcases turn_beat (orderly.dropTimer stands due) failing unasked with ⟨items, outbox, turn⟩
    have fired : hub.react (.timer position) = (hub.dropTimer position).beat :=
      fire_of_beat stands active due
    rw [← fired] at outbox turn
    rw [noticesOf_of_outbox outbox]
    exact turn

variable {position : Nat}

/-- Nothing is broadcast of engines when another timer has its turn. -/
theorem noticesOf_timer (consistent : hub.registry.Consistent)
    (unbeaten : ¬ hub.beats (.timer position)) : hub.noticesOf id (.timer position) = [] := by
  unfold noticesOf
  by_cases purging : ∃ entry heart, hub.timers.entries[position]? = some entry ∧
      entry.active = true ∧ entry.action = .own (.purgeStalled heart)
  · rcases purging with ⟨entry, heart, stands, active, due⟩
    rw [posts_of_purge consistent stands active due]
    cases hub.registry.waiting heart with
    | none => rfl
    | some record => exact record.notices_apology
  · have unpurging : ∀ entry heart, hub.timers.entries[position]? = some entry → entry.active →
        entry.action ≠ .own (.purgeStalled heart) := fun entry heart stands active due =>
      purging ⟨entry, heart, stands, active, due⟩
    rcases posts_of_other unbeaten unpurging with nothing | stop
    · rw [nothing]
      rfl
    · rw [stop]
      rfl

/-- A timer that has its turn withdraws an engine that waits or one that was given
up, or nobody. -/
theorem registry_of_fired {r after : Core} {entry : TimerEntry (Reactor.Alarm Duty)}
    (fired : r.Fired position entry after) (stands : r.timers.entries[position]? = some entry)
    (coherent : r.Coherent) :
    after.registry = r.registry ∨ ∃ (other : EngineId) (record : EngineRecord),
      r.registry.engines[other]? = some record ∧ after.registry = r.registry.withdraw record ∧
      (record.state = .pending ∨ record.state = .active ∧ record.queue ∈ r.registry.dead) := by
  cases fired with
  | purged other record active due found pending =>
      exact Or.inr ⟨other, record, found, rfl, Or.inl pending⟩
  | swept other queue now record active due found =>
      have running := Timers.mem_running.mpr ⟨List.mem_of_getElem? stands, active⟩
      rcases coherent.swept_active running due found with ⟨_, dead, seen⟩
      exact Or.inr ⟨other, record, found, rfl, Or.inr ⟨seen, dead⟩⟩
  | _ => exact Or.inl rfl

theorem turns_timer (orderly : hub.Orderly) (unbeaten : ¬ hub.beats (.timer position))
    (id : EngineId) : hub.Turns id (.timer position) := by
  have consistent := orderly.consistent
  have silent : hub.noticesOf id (.timer position) = [] := noticesOf_timer consistent unbeaten
  have unasked : ¬ hub.leaves id (.timer position) := by
    rintro ⟨_, _, _, asked, _⟩
    contradiction
  have kept : (hub.fire position).registry.standing id = hub.registry.standing id →
      hub.Turns id (.timer position) := fun same => turns_of_same unbeaten unasked same silent
  cases stands : hub.timers.entries[position]? with
  | none =>
      apply kept
      rw [fire_of_none stands]
  | some entry =>
      rcases fired_fire consistent stands with fired | ⟨active, due⟩
      · rcases registry_of_fired fired stands orderly.coherent with
          same | ⟨other, record, found, withdrawn, state⟩
        · exact kept (congrArg (fun registry => Registry.standing registry id) same)
        · have found : hub.registry.engines[other]? = some record := found
          have after : (hub.react (.timer position)).registry.standing id =
              if other = id then .absent else hub.registry.standing id :=
            (congrArg (fun registry => Registry.standing registry id) withdrawn).trans
              (Registry.standing_withdraw consistent found)
          by_cases own : other = id
          · subst own
            unfold Turns
            rw [silent, after, if_pos rfl]
            rcases state with pending | ⟨active, dead⟩
            · rw [(Registry.Stands.waiting record found pending).standing_eq]
              exact .expires
            · rw [(Registry.Stands.lost record found active dead).standing_eq]
              exact .swept _ unasked
          · exact kept (after.trans (if_neg own))
      · exact absurd (Or.inr ⟨position, entry, rfl, stands, active, due⟩) unbeaten

/-! ## Queries that move nobody -/

/-- No engine is moved, and nothing is broadcast of any. -/
def Spares (before after : Hub) : Prop :=
  after.registry = before.registry ∧
    ∃ items, after.state.outbox = before.state.outbox ++ items ∧
      ∀ id, items.filterMap (Outgoing.noticeOf id) = []

theorem spares_answerQuery (registering : kind ≠ .registration) (leaving : kind ≠ .unregistration)
    (done : hub.answerQuery identity message kind = .ok after) : hub.Spares after := by
  cases reading : kind.isReading with
  | true =>
      rcases answerQuery_of_reading reading done with ⟨answer, trailing, rfl⟩
      exact ⟨rfl, _, outbox_respond .., fun _ => rfl⟩
  | false =>
      cases kind with
      | purge =>
          rcases purgeResults_eq_ok done with ⟨operations, _, same⟩
          rcases outbox_purgeResults done with ⟨report, told⟩
          exact ⟨congrArg Core.registry same, _, told, fun _ => rfl⟩
      | resubmit =>
          rcases resubmit_eq_ok done with ⟨operations, _, same⟩
          rcases outbox_resubmit done with ⟨tasks, report, told⟩
          refine ⟨congrArg Core.registry same, _, told, fun id => ?_⟩
          have bodies : (tasks.map fun task => Outgoing.resubmission task.1 task.2).filterMap
              (Outgoing.noticeOf id) = [] := by
            rw [List.filterMap_map]
            exact List.filterMap_eq_nil_iff.mpr fun _ _ => rfl
          rw [List.filterMap_append, bodies]
          rfl
      | shutdown =>
          cases done
          exact ⟨rfl, _, outbox_shutdownRequest hub identity, fun _ => rfl⟩
      | registration => exact absurd rfl registering
      | unregistration => exact absurd rfl leaving
      | _ => contradiction

theorem spares_refuse (hub : Hub) (identity : Frame) (kind : QueryKind) (fault : Fault) :
    hub.Spares (hub.refuse identity kind fault) := by
  refine ⟨congrArg Core.registry (core_refuse hub identity kind fault), ?_⟩
  unfold refuse
  split
  · refine ⟨[.reply identity kind (.ofFault fault) []], ?_, fun _ => rfl⟩
    rw [outbox_respondFault]
    split <;> rfl
  · exact ⟨[], (List.append_nil _).symm, fun _ => rfl⟩

/-- A query moves nobody unless an engine joins or leaves by it. -/
theorem spares_dispatchQuery
    (other : ∀ identity kind after, message.frame 0 = .ok identity →
      (message.text 1).bind QueryKind.ofTag = .ok kind →
      (hub.countQuery kind).answerQuery identity message kind = .ok after →
      kind ≠ .registration ∧ kind ≠ .unregistration) :
    hub.Spares (hub.dispatchQuery message) := by
  unfold dispatchQuery
  split
  · next identity kind sender tag =>
      simp only
      cases done : (hub.countQuery kind).answerQuery identity message kind with
      | ok after =>
          rcases other identity kind after sender tag done with ⟨registering, leaving⟩
          have spared : (hub.countQuery kind).Spares after :=
            spares_answerQuery registering leaving done
          exact spared
      | error fault => exact spares_refuse (hub.countQuery kind) identity kind fault
  · exact ⟨rfl, [], (List.append_nil _).symm, fun _ => rfl⟩

theorem unregisterEngine_of_active (consistent : hub.registry.Consistent)
    (read : message.payload Unregistration 2 = .ok ⟨record.queue⟩)
    (found : hub.registry.engines[id]? = some record) (active : record.state = .active) :
    hub.unregisterEngine identity message =
      .ok ((((hub.setRegistry (hub.registry.withdraw record)).disarm record.deletion).respond
        identity .unregistration (.engine ⟨id⟩) []).notify (.left record.notice)).gaugeEngines := by
  have numbered := consistent.identified found
  rw [← numbered] at found ⊢
  have got := (Registry.getByQueue_eq_ok_iff consistent).mpr ⟨found, rfl⟩
  have seen : record.isActive = true := decide_eq_true active
  simp only [unregisterEngine, read, bind, Except.bind, got, seen,
    Registry.remove_of_found found rfl]
  rfl

/-- A request to leave that succeeds is that of an active engine. -/
theorem leaves_of_unregisterEngine (consistent : hub.registry.Consistent)
    (sender : message.frame 0 = .ok identity)
    (tag : (message.text 1).bind QueryKind.ofTag = .ok .unregistration)
    (done : hub.unregisterEngine identity message = .ok after) :
    ∃ id, hub.leaves id (.query message) := by
  unfold unregisterEngine at done
  rcases Fault.bind_eq_ok_iff.mp done with ⟨request, read, done⟩
  rcases Fault.bind_eq_ok_iff.mp done with ⟨record, got, done⟩
  rcases (Registry.getByQueue_eq_ok_iff consistent).mp got with ⟨found, named⟩
  split at done
  · next active =>
      have asks : IsUnregistration message identity ⟨record.queue⟩ := by
        rw [named]
        exact ⟨sender, tag, read⟩
      exact ⟨record.id, message, identity, record, rfl, asks, found, of_decide_eq_true active⟩
  · contradiction

theorem dispatchQuery_of_unregistration {request : Unregistration}
    (asks : IsUnregistration message identity request) :
    hub.dispatchQuery message =
      match (hub.countQuery .unregistration).unregisterEngine identity message with
      | .ok hub => hub
      | .error fault => (hub.countQuery .unregistration).refuse identity .unregistration fault := by
  unfold dispatchQuery
  rw [asks.sender, asks.tag]
  rfl

theorem turns_of_leaves {leaver : EngineId} (orderly : hub.Orderly)
    (leaving : hub.leaves leaver (.query message)) (id : EngineId) :
    hub.Turns id (.query message) := by
  have consistent := orderly.consistent
  rcases leaving with ⟨_, identity, record, sent, asks, found, active⟩
  cases sent
  have numbered := consistent.identified found
  have left : (hub.countQuery .unregistration).unregisterEngine identity message = .ok _ :=
    unregisterEngine_of_active consistent asks.payload found active
  have dispatched : hub.react (.query message) = _ := dispatchQuery_of_unregistration asks
  rw [left] at dispatched
  simp only at dispatched
  have withdrawn : (hub.react (.query message)).registry = hub.registry.withdraw record := by
    rw [dispatched]
    change (Hub.core _).registry = _
    simp only [core_notify, core_respond, core_disarm, core_setRegistry]
    rfl
  have outbox : (hub.react (.query message)).state.outbox = hub.state.outbox ++
      ([.reply identity .unregistration (.ok (.engine ⟨leaver⟩)) []] ++ [record.farewell]) := by
    rw [dispatched]
    simp only [outbox_gaugeEngines, outbox_notify, outbox_respond, outbox_disarm,
      outbox_setRegistry, List.append_assoc]
    rfl
  have standing : (hub.react (.query message)).registry.standing id =
      if leaver = id then .absent else hub.registry.standing id := by
    rw [withdrawn, Registry.standing_withdraw consistent found]
  have said : hub.noticesOf id (.query message) =
      if leaver = id then [.left record.notice] else [] := by
    rw [noticesOf_of_outbox outbox, List.filterMap_append, EngineRecord.notices_farewell, numbered]
    rfl
  by_cases own : leaver = id
  · subst own
    unfold Turns
    rw [standing, said, if_pos rfl, if_pos rfl]
    exact .leaves _ record.notice ⟨message, identity, record, rfl, asks, found, active⟩
      (Registry.standing_of_active found active)
  · have unasked : ¬ hub.leaves id (.query message) := by
      rintro ⟨_, _, other, sent, also, otherFound, _⟩
      cases sent
      have same := also.payload.symm.trans asks.payload
      injection same with same
      injection same with same
      exact own (consistent.eq_of_queue found otherFound same.symm)
    exact turns_of_same (not_beats_query hub message) unasked (standing.trans (if_neg own))
      (said.trans (if_neg own))

variable {registration : Registration}

theorem not_leaves_of_isRegistration (asks : IsRegistration message identity registration) :
    ¬ hub.leaves id (.query message) := by
  rintro ⟨_, _, _, sent, also, _⟩
  cases sent
  cases asks.tag.symm.trans also.tag

/-- A number is given to an engine that is active from then on, and everybody is
told, or to one that waits. -/
theorem turns_of_joins (orderly : hub.Orderly) (room : hub.HasRoom (.query message))
    (asks : IsRegistration message identity registration)
    (available : hub.registry.Available registration.heart registration.queue) (id : EngineId) :
    hub.Turns id (.query message) := by
  have consistent := orderly.consistent
  have unasked : ¬ hub.leaves id (.query message) := not_leaves_of_isRegistration asks
  have unbeaten := not_beats_query hub message
  have before : hub.registry.nextId = id → hub.registry.standing id = .absent := by
    rintro rfl
    exact Registry.standing_of_absent consistent.nextId_free
  cases alive : hub.monitor.isAlive registration.heart with
  | true =>
      have core := core_dispatchQuery_of_alive consistent room asks available alive
      have posted := posts_of_alive consistent room asks available alive
      let applicant := hub.registry.applicant registration (some identity) hub.time
      have standing : (hub.react (.query message)).registry.standing id =
          if hub.registry.nextId = id then .member applicant.notice
            else hub.registry.standing id := by
        have enrolled : (hub.react (.query message)).registry =
            hub.registry.enroll applicant.activated := congrArg Core.registry core
        rw [enrolled, Registry.standing_enroll available]
        rfl
      have said : hub.noticesOf id (.query message) =
          if hub.registry.nextId = id then [.joined applicant.notice] else [] := by
        rw [noticesOf, posted, EngineRecord.notices_greeting]
        rfl
      by_cases own : hub.registry.nextId = id
      · unfold Turns
        rw [standing, said, if_pos own, if_pos own]
        exact .joins _ _ (Or.inl (before own))
      · exact turns_of_same unbeaten unasked (standing.trans (if_neg own)) (said.trans (if_neg own))
  | false =>
      have core := core_dispatchQuery_of_silent consistent asks available alive
      have posted := posts_of_silent consistent asks available alive
      have standing : (hub.react (.query message)).registry.standing id =
          if hub.registry.nextId = id then .waiting else hub.registry.standing id := by
        have enrolled : (hub.react (.query message)).registry =
            hub.registry.enroll (hub.awaiting registration identity) := congrArg Core.registry core
        rw [enrolled, Registry.standing_enroll available]
        rfl
      have said : hub.noticesOf id (.query message) = [] := by
        rw [noticesOf, posted]
        rfl
      by_cases own : hub.registry.nextId = id
      · unfold Turns
        rw [standing, said, if_pos own, before own]
        exact .registers
      · exact turns_of_same unbeaten unasked (standing.trans (if_neg own)) said

/-! ## All events -/

theorem turns_of_spares (unbeaten : ¬ hub.beats event) (unasked : ¬ hub.leaves id event)
    (spared : hub.Spares (hub.react event)) : hub.Turns id event := by
  rcases spared with ⟨registry, items, outbox, silent⟩
  refine turns_of_same unbeaten unasked (by rw [registry]) ?_
  rw [noticesOf_of_outbox outbox, silent]

theorem turns_query (orderly : hub.Orderly) (room : hub.HasRoom (.query message)) (id : EngineId) :
    hub.Turns id (.query message) := by
  by_cases joining : ∃ identity registration, IsRegistration message identity registration ∧
      hub.registry.Available registration.heart registration.queue
  · rcases joining with ⟨identity, registration, asks, available⟩
    exact turns_of_joins orderly room asks available id
  · by_cases leaving : ∃ leaver, hub.leaves leaver (.query message)
    · rcases leaving with ⟨leaver, leaving⟩
      exact turns_of_leaves orderly leaving id
    · refine turns_of_spares (not_beats_query hub message) (fun leaves => leaving ⟨id, leaves⟩) ?_
      refine spares_dispatchQuery fun identity kind after sender tag done => ?_
      constructor
      · rintro rfl
        rcases Fault.bind_eq_ok_iff.mp done with ⟨registration, read, _⟩
        have asks : IsRegistration message identity registration := ⟨sender, tag, read⟩
        refine joining ⟨identity, registration, asks, Classical.byContradiction fun taken => ?_⟩
        rcases Registry.checkAvailable_of_not_available orderly.consistent taken with
          ⟨fault, refused, _⟩
        have failed : (hub.countQuery .registration).registerEngine identity message =
            .error fault := registerEngine_of_refused read refused
        have done : (hub.countQuery .registration).registerEngine identity message = .ok after :=
          done
        rw [failed] at done
        contradiction
      · rintro rfl
        have counted : (hub.countQuery .unregistration).registry.Consistent := orderly.consistent
        have left : ∃ leaver, (hub.countQuery .unregistration).leaves leaver (.query message) :=
          leaves_of_unregisterEngine counted sender tag done
        exact leaving left

theorem turns_react (orderly : hub.Orderly) (room : hub.HasRoom event) (id : EngineId) :
    hub.Turns id event := by
  by_cases beaten : hub.beats event
  · exact turns_of_beats orderly beaten id
  · have idle : (∀ message, event ≠ .query message) → ¬ hub.leaves id event := by
      rintro other ⟨message, _, _, asked, _⟩
      exact other message asked
    cases event with
    | query message => exact turns_query orderly room id
    | traffic message =>
        rcases noted_dispatchTraffic hub message with ⟨operations, _, same⟩
        have registry : (hub.dispatchTraffic message).registry = hub.registry :=
          congrArg Core.registry same
        refine turns_of_same beaten (idle nofun) ?_ ?_
        · exact congrArg (fun registry => Registry.standing registry id) registry
        · rw [noticesOf, posts_traffic]
          rfl
    | pong message =>
        exact turns_of_spares beaten (idle nofun) ⟨rfl, [], (List.append_nil _).symm, fun _ => rfl⟩
    | beat => exact absurd (Or.inl rfl) beaten
    | timer position => exact turns_timer orderly beaten id
    | elapse d =>
        exact turns_of_spares beaten (idle nofun) ⟨rfl, [], (List.append_nil _).symm, fun _ => rfl⟩
    | flush =>
        refine turns_of_same beaten (idle nofun) rfl ?_
        rw [noticesOf, posts_flush]
        rfl

end Hub

end ClusterHub
