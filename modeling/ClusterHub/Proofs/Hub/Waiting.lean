import ClusterHub.Proofs.Hub.Course

/-!
# Engines that wait

An engine that waits for its heart goes on waiting until one of two things
happens: a beat reports its heart as new, and then it is active; or its timer
has its turn, and then it is gone.
-/

namespace ClusterHub

/-- A record after a new heart was reported. -/
def EngineRecord.welcome (heart : String) (record : EngineRecord) : EngineRecord :=
  if record.state = .pending ∧ record.heart = heart then record.activated else record

namespace Hub

variable {hub : Hub} {event : Event} {id : EngineId} {record : EngineRecord}

/-- Whether a timer that has not been cancelled has its turn. -/
def fires (hub : Hub) (ticket : Nat) (event : Event) : Prop :=
  ∃ position entry, event = .timer position ∧ hub.timers.entries[position]? = some entry ∧
    entry.active ∧ entry.ticket = ticket

/-- Whether a beat is made, be it because it is time for one. -/
def beats (hub : Hub) (event : Event) : Prop :=
  event = .beat ∨ ∃ position entry, event = .timer position ∧
    hub.timers.entries[position]? = some entry ∧ entry.active ∧ entry.action = .own .beat

/-- Whether a beat is made that reports a heart as new. -/
def reportsNew (hub : Hub) (heart : String) (event : Event) : Prop :=
  hub.beats event ∧ heart ∈ hub.newHearts

theorem found_welcomeHeart (consistent : hub.registry.Consistent)
    (found : hub.registry.engines[id]? = some record) (heart : String) :
    (hub.welcomeHeart heart).registry.engines[id]? = some (record.welcome heart) := by
  unfold welcomeHeart EngineRecord.welcome
  cases waiting : hub.registry.pendingForHeart heart with
  | none =>
      refine found.trans (congrArg some (if_neg ?_).symm)
      rintro ⟨pending, named⟩
      have awaited := (Registry.pendingForHeart_eq_some_iff consistent).mpr
        ⟨record, found, pending, named⟩
      rw [waiting] at awaited
      contradiction
  | some other =>
      obtain ⟨another, otherFound, pending, rfl⟩ :=
        (Registry.pendingForHeart_eq_some_iff consistent).mp waiting
      have finished := core_finishRegistration consistent otherFound pending
      rw [Option.isSome_some, if_pos rfl]
      change (hub.finishRegistration another.heart).core.registry.engines[id]? = _
      rw [finished]
      refine (Registry.getElem?_replace id).trans ?_
      change (if another.id = id then some another.activated else hub.registry.engines[id]?) = _
      have numbered := consistent.identified otherFound
      by_cases same : another.id = id
      · rw [← numbered, same, found] at otherFound
        cases otherFound
        rw [if_pos same, if_pos ⟨pending, rfl⟩]
      · rw [if_neg same, if_neg]
        · exact found
        · rintro ⟨_, named⟩
          rw [numbered] at same
          exact same (consistent.eq_of_heart otherFound found named.symm)

theorem found_welcomeAll (consistent : hub.registry.Consistent)
    (found : hub.registry.engines[id]? = some record) (hearts : List String) :
    (hearts.foldl welcomeHeart hub).registry.engines[id]? =
      some (if record.state = .pending ∧ record.heart ∈ hearts then record.activated
        else record) := by
  induction hearts generalizing hub record with
  | nil => simpa using found
  | cons heart rest inductionHypothesis =>
      have pulse : Core.Pulse (hub.amid (heart :: rest) []) _ :=
        pulse_welcomeHeart consistent rest []
      have kept := pulse.consistent consistent
      have first := found_welcomeHeart consistent found heart
      refine (inductionHypothesis kept first).trans (congrArg some ?_)
      unfold EngineRecord.welcome
      by_cases welcomed : record.state = .pending ∧ record.heart = heart
      · rw [if_pos welcomed, if_neg, if_pos]
        · exact ⟨welcomed.1, List.mem_cons.mpr (Or.inl welcomed.2)⟩
        · rintro ⟨pending, _⟩
          contradiction
      · rw [if_neg welcomed]
        by_cases later : record.state = .pending ∧ record.heart ∈ rest
        · rw [if_pos later, if_pos ⟨later.1, List.mem_cons_of_mem heart later.2⟩]
        · rw [if_neg later, if_neg]
          rintro ⟨pending, member⟩
          rcases List.mem_cons.mp member with same | inRest
          · exact welcomed ⟨pending, same⟩
          · exact later ⟨pending, inRest⟩

theorem engines_loseAll (hub : Hub) (hearts : List String) :
    (hearts.foldl loseHeart hub).registry.engines = hub.registry.engines := by
  induction hearts generalizing hub with
  | nil => rfl
  | cons heart rest inductionHypothesis =>
      apply (inductionHypothesis (hub.loseHeart heart)).trans
      unfold loseHeart giveUpHeart
      split <;> rfl

/-- A beat makes the engines active that wait for a new heart, and leaves the
other records alone. -/
theorem found_beat (orderly : hub.Orderly) (found : hub.registry.engines[id]? = some record) :
    hub.beat.registry.engines[id]? =
      some (if record.state = .pending ∧ record.heart ∈ hub.newHearts then record.activated
        else record) := by
  rw [registry_beat orderly.attentive, engines_loseAll]
  have rolledFound : hub.rolled.registry.engines[id]? = some record := found
  exact found_welcomeAll ((pulse_rolled hub).consistent orderly.consistent) rolledFound
    hub.newHearts

end Hub

namespace Core

variable {r after : Core} {id : EngineId} {record : EngineRecord}

theorem Handled.found_pending (handled : r.Handled after) (consistent : r.registry.Consistent)
    (found : r.registry.engines[id]? = some record) (pending : record.state = .pending) :
    after.registry.engines[id]? = some record := by
  cases handled with
  | noted after noted =>
      rcases noted with ⟨operations, _, rfl⟩
      exact found
  | stopping => exact found
  | joined => exact consistent.found_enroll found
  | waiting => exact consistent.found_enroll found
  | left other another otherFound active =>
      refine Registry.found_withdraw ?_ found
      rintro rfl
      rw [← consistent.identified otherFound, found] at otherFound
      cases otherFound
      rw [pending] at active
      contradiction

/-- A timer leaves a waiting engine alone unless it is the engine's own. -/
theorem Fired.found_pending {position : Nat} {entry : TimerEntry (Reactor.Alarm Duty)}
    (fired : r.Fired position entry after) (stands : r.timers.entries[position]? = some entry)
    (coherent : r.Coherent) (found : r.registry.engines[id]? = some record)
    (pending : record.state = .pending)
    (foreign : entry.active → record.deletion ≠ some entry.handle) :
    after.registry.engines[id]? = some record := by
  have consistent := coherent.consistent
  have running : entry.active → entry ∈ r.timers.running := fun active =>
    Timers.mem_running.mpr ⟨List.mem_of_getElem? stands, active⟩
  cases fired with
  | purged other another active due otherFound =>
      refine Registry.found_withdraw ?_ found
      rintro rfl
      rcases coherent.purges (running active) due with ⟨owner, owned, ownedFound, _, named, handle⟩
      rw [← consistent.identified otherFound, found] at otherFound
      cases otherFound
      cases consistent.eq_of_heart ownedFound found named
      cases ownedFound.symm.trans found
      exact foreign active handle
  | swept other queue now another active due otherFound =>
      refine Registry.found_withdraw ?_ found
      rintro rfl
      have seen := (coherent.swept_active (running active) due otherFound).2.2
      rw [← consistent.identified otherFound, found] at otherFound
      cases otherFound
      rw [pending] at seen
      contradiction
  | _ => exact found

end Core

/-! ## Events -/

namespace Hub

variable {hub : Hub} {event : Event} {id : EngineId} {record : EngineRecord}
  {handle : TimerHandle}

/-- When its heart is reported, a waiting engine becomes active. -/
theorem found_react_of_reported (orderly : hub.Orderly)
    (found : hub.registry.engines[id]? = some record) (pending : record.state = .pending)
    (reported : hub.reportsNew record.heart event) :
    (hub.react event).registry.engines[id]? = some record.activated := by
  rcases reported with ⟨beaten, new⟩
  rcases beaten with rfl | ⟨position, entry, rfl, stands, active, due⟩
  · apply (found_beat orderly found).trans
    rw [if_pos ⟨pending, new⟩]
  · have still : (hub.dropTimer position).registry.engines[id]? = some record := found
    change (hub.fire position).registry.engines[id]? = _
    rw [fire_of_beat stands active due, found_beat (orderly.dropTimer stands due) still]
    exact congrArg some (if_pos ⟨pending, new⟩)

/-- When its timer has its turn, a waiting engine is withdrawn. -/
theorem registry_react_of_fired (orderly : hub.Orderly)
    (found : hub.registry.engines[id]? = some record) (pending : record.state = .pending)
    (armed : record.deletion = some handle) (fired : hub.fires handle.ticket event) :
    (hub.react event).registry = hub.registry.withdraw record := by
  rcases fired with ⟨position, entry, rfl, stands, active, same⟩
  rcases orderly.coherent.armed found pending with ⟨own, running, due, ownHandle⟩
  have ticket : own.ticket = handle.ticket := by
    rw [armed] at ownHandle
    exact (congrArg TimerHandle.ticket (Option.some.inj ownHandle)).symm
  have equal := orderly.coherent.ticketed.eq_of_mem (List.mem_of_getElem? stands)
    (Timers.mem_running.mp running).1 (same.trans ticket.symm)
  subst equal
  have purged : ((hub.dropTimer position).purgeStalled record.heart).core = _ :=
    core_purgeStalled orderly.consistent found pending
  change (hub.fire position).core.registry = _
  rw [fire_of_active stands active, due]
  change ((hub.dropTimer position).purgeStalled record.heart).core.registry = _
  rw [purged]
  rfl

/-- Otherwise it goes on waiting. -/
theorem found_react_of_neither (orderly : hub.Orderly) (room : hub.HasRoom event)
    (found : hub.registry.engines[id]? = some record) (pending : record.state = .pending)
    (armed : record.deletion = some handle) (unreported : ¬ hub.reportsNew record.heart event)
    (unfired : ¬ hub.fires handle.ticket event) :
    (hub.react event).registry.engines[id]? = some record := by
  have unbeaten : hub.beats event → ¬ (record.state = .pending ∧ record.heart ∈ hub.newHearts) :=
    fun beaten both => unreported ⟨beaten, both.2⟩
  cases event with
  | query message =>
      have handled := handled_dispatchQuery orderly.consistent room
      exact handled.found_pending orderly.consistent found pending
  | traffic message =>
      have noted := noted_dispatchTraffic hub message
      exact (Core.Handled.noted _ noted).found_pending orderly.consistent found pending
  | pong message => exact found
  | elapse d => exact found
  | flush => exact found
  | beat =>
      apply (found_beat orderly found).trans
      rw [if_neg (unbeaten (Or.inl rfl))]
  | timer position =>
      change (hub.fire position).registry.engines[id]? = some record
      cases stands : hub.timers.entries[position]? with
      | none =>
          rw [fire_of_none stands]
          exact found
      | some entry =>
          have foreign : entry.active → record.deletion ≠ some entry.handle := by
            intro active own
            rw [armed] at own
            cases own
            exact unfired ⟨position, entry, rfl, stands, active, rfl⟩
          rcases fired_fire orderly.consistent stands with fired | ⟨active, due⟩
          · exact fired.found_pending stands orderly.coherent found pending foreign
          · have still : (hub.dropTimer position).registry.engines[id]? = some record := found
            have beaten : hub.beats (.timer position) :=
              Or.inr ⟨position, entry, rfl, stands, active, due⟩
            rw [fire_of_beat stands active due, found_beat (orderly.dropTimer stands due) still]
            exact congrArg some (if_neg (unbeaten beaten))

end Hub

end ClusterHub
