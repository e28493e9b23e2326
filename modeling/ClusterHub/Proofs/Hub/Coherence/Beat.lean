import ClusterHub.Proofs.Hub.Coherence.Message

/-!
# Coherence under beats

Closing a round makes some hearts alive and others not, and so leaves engines
to be welcomed and to be given up; each of the steps that follow does this for
one heart.
-/

namespace ClusterHub.Core

variable {r after : Core}

theorem alive_handlePong {η : Type} (m : Monitor η) (message : Message) :
    (m.handlePong message).liveness.alive = m.liveness.alive := by
  unfold Monitor.handlePong
  split
  · split <;> rfl
  · rfl

/-- Closing a round: new hearts are alive from now on, failed ones no longer. -/
theorem Coherent.roll (coherent : r.Coherent) (arrived : r.arriving = []) (failed : r.failing = [])
    (now : Instant) :
    Coherent { r with
      monitor := (r.monitor.roll now).2.withoutHandlers
      arriving := (r.monitor.roll now).1.newHearts
      failing := (r.monitor.roll now).1.failures } := by
  have alive : ∀ heart, heart ∈ (r.monitor.roll now).2.withoutHandlers.liveness.alive ↔
      (heart ∈ r.alive ∨ heart ∈ r.monitor.liveness.arriving) ∧
        heart ∉ r.monitor.liveness.failing := by
    intro heart
    change heart ∈ (r.alive ∪ r.monitor.liveness.arriving) \ r.monitor.liveness.failing ↔ _
    simp
  have arriving : ∀ heart, heart ∈ (r.monitor.roll now).1.newHearts ↔
      heart ∈ r.monitor.liveness.arriving := fun _ => Std.ExtTreeSet.mem_toList
  have failing : ∀ heart, heart ∈ (r.monitor.roll now).1.failures ↔
      heart ∈ r.monitor.liveness.failing := fun _ => Std.ExtTreeSet.mem_toList
  refine coherent.remonitor ?_ ?_ ?_
  · intro id record found pending member
    rcases ((alive record.heart).mp member).1 with before | new
    · have pendingHeart := (coherent.waiting found pending).2 before
      rw [arrived] at pendingHeart
      contradiction
    · exact (arriving record.heart).mpr new
  · intro id record found active spared
    rcases coherent.beating found active spared with before | lost
    · by_cases failure : record.heart ∈ r.monitor.liveness.failing
      · exact Or.inr ((failing record.heart).mpr failure)
      · exact Or.inl ((alive record.heart).mpr ⟨Or.inl before, failure⟩)
    · rw [failed] at lost
      contradiction
  · intro heart member
    have new := (arriving heart).mp member
    refine (alive heart).mpr ⟨Or.inr new, ?_⟩
    intro failure
    rcases Liveness.mem_arriving.mp new with ⟨answered, _⟩
    rcases Liveness.mem_failing.mp failure with ⟨_, missed⟩
    exact (Liveness.mem_missed.mp missed).2 answered

/-- An engine whose heart has arrived is settled, and its timer is cancelled. -/
theorem Coherent.welcome (coherent : r.Coherent) {heart : String} {rest : List String}
    {id : EngineId} {record : EngineRecord} (first : r.arriving = heart :: rest)
    (found : r.registry.engines[id]? = some record) (pending : record.state = .pending)
    (named : record.heart = heart) :
    Coherent (disarm { r with
      registry := r.registry.replace record.activated, arriving := rest } record.deletion) := by
  have numbered : record.id = id := coherent.consistent.identified found
  have fewer : ∀ entry ∈ (r.timers.disarm record.deletion).running, entry ∈ r.timers.running :=
    fun _ running => (Timers.mem_running_disarm.mp running).1
  have kept : ∀ entry ∈ r.timers.running, entry.action ≠ .own (.purgeStalled record.heart) →
      entry ∈ (r.timers.disarm record.deletion).running := by
    intro entry running unlike
    refine Timers.mem_running_disarm.mpr ⟨running, ?_⟩
    intro handle armed
    exact coherent.ticket_ne_of_pending found pending armed running unlike
  have unlike : ∀ {other : EngineId} {another : EngineRecord}, other ≠ record.id →
      r.registry.engines[other]? = some another → another.heart ≠ record.heart := by
    intro other another different otherFound same
    rw [numbered] at different
    exact different (coherent.consistent.eq_of_heart otherFound found same)
  have notActive : ∀ {other : EngineId} {another : EngineRecord},
      r.registry.engines[other]? = some another → another.state = .active →
      record.id ≠ other := by
    rintro other another otherFound active rfl
    rw [numbered, found] at otherFound
    cases otherFound
    rw [pending] at active
    contradiction
  constructor
  case consistent => exact coherent.consistent.replace found rfl rfl rfl
  case ticketed => exact coherent.ticketed.disarm record.deletion
  case ledger => exact coherent.ledger
  case waiting =>
    intro other another otherFound otherPending
    rcases Registry.eq_or_found_of_replace otherFound with ⟨_, rfl⟩ | ⟨different, otherFound⟩
    · contradiction
    · rcases coherent.waiting otherFound otherPending with ⟨requested, arrives⟩
      refine ⟨requested, ?_⟩
      intro alive
      have arriving := arrives alive
      rw [first, ← named] at arriving
      exact (List.mem_cons.mp arriving).resolve_left (unlike different otherFound)
  case armed =>
    intro other another otherFound otherPending
    rcases Registry.eq_or_found_of_replace otherFound with ⟨_, rfl⟩ | ⟨different, otherFound⟩
    · contradiction
    · rcases coherent.armed otherFound otherPending with ⟨entry, running, due, handle⟩
      refine ⟨entry, kept entry running ?_, due, handle⟩
      rw [due]
      intro same
      injection same with same
      injection same with same
      exact unlike different otherFound same
  case settled =>
    intro other another otherFound active
    rcases Registry.eq_or_found_of_replace otherFound with ⟨_, rfl⟩ | ⟨_, otherFound⟩
    · exact ⟨rfl, rfl⟩
    · exact coherent.settled otherFound active
  case beating =>
    intro other another otherFound active spared
    rcases Registry.eq_or_found_of_replace otherFound with ⟨_, rfl⟩ | ⟨_, otherFound⟩
    · refine Or.inl (coherent.arrived record.heart ?_)
      rw [first, named]
      exact List.mem_cons_self
    · exact coherent.beating otherFound active spared
  case purges =>
    intro entry name running due
    obtain ⟨other, another, otherFound, otherPending, otherNamed, handle⟩ :=
      coherent.purges (fewer entry running) due
    have different : record.id ≠ other := by
      rintro rfl
      rw [numbered, found] at otherFound
      cases otherFound
      exact (Timers.mem_running_disarm.mp running).2 entry.handle handle rfl
    exact ⟨other, another, Registry.found_replace different otherFound, otherPending, otherNamed,
      handle⟩
  case givenUp =>
    intro queue dead
    rcases coherent.givenUp dead with ⟨other, another, otherFound, otherNamed, active⟩
    have different := notActive otherFound active
    exact ⟨other, another, Registry.found_replace different otherFound, otherNamed, active⟩
  case doomed =>
    intro other another otherFound dead
    have sweeping : ∃ entry ∈ r.timers.running,
        entry.action = .own (.sweepStranded other another.queue) := by
      rcases Registry.eq_or_found_of_replace otherFound with ⟨rfl, rfl⟩ | ⟨_, otherFound⟩
      · rw [← numbered] at found
        have sweeping := coherent.doomed found dead
        exact sweeping
      · exact coherent.doomed otherFound dead
    rcases sweeping with ⟨entry, running, due⟩
    refine ⟨entry, kept entry running ?_, due⟩
    rw [due]
    intro same
    cases same
  case sweeps =>
    intro entry other queue running due
    rcases coherent.sweeps (fewer entry running) due with ⟨bound, only⟩
    refine ⟨bound, ?_⟩
    intro another otherFound
    rcases Registry.eq_or_found_of_replace otherFound with ⟨rfl, rfl⟩ | ⟨_, otherFound⟩
    · rw [← numbered] at found
      exact only record found
    · exact only another otherFound
  case once =>
    intro entry other number queue name running otherRunning due otherDue
    exact coherent.once (fewer entry running) (fewer other otherRunning) due otherDue
  case arrived =>
    intro other later
    apply coherent.arrived other
    rw [first]
    exact List.mem_cons_of_mem heart later

/-- An engine whose heart has failed gets a timer that sweeps it. -/
theorem Coherent.giveUp (coherent : r.Coherent) {heart : String} {rest : List String}
    {record : EngineRecord} {deadline : Instant} (first : r.failing = heart :: rest)
    (found : r.registry.engines[record.id]? = some record) (active : record.state = .active)
    (named : record.heart = heart) (spared : record.queue ∉ r.registry.dead) :
    Coherent { r.schedule deadline (.sweepStranded record.id record.queue) with
      registry := r.registry.markDead record.queue
      failing := rest } := by
  have kept : ∀ entry ∈ r.timers.running, entry ∈
      (r.schedule deadline (.sweepStranded record.id record.queue)).timers.running :=
    fun _ running => Timers.mem_running_scheduleAt.mpr (Or.inr running)
  have only : ∀ {id : EngineId} {other : EngineRecord}, r.registry.engines[id]? = some other →
      record.queue = other.queue ∨ record.heart = other.heart →
        record.id = id ∧ record = other := by
    intro id other otherFound same
    have number : record.id = id := by
      rcases same with same | same
      · exact coherent.consistent.eq_of_queue found otherFound same
      · exact coherent.consistent.eq_of_heart found otherFound same
    subst number
    rw [found] at otherFound
    exact ⟨rfl, Option.some.inj otherFound⟩
  -- The engine had no timer that sweeps it before.
  have unswept : ∀ entry ∈ r.timers.running, ∀ queue,
      entry.action ≠ .own (.sweepStranded record.id queue) := by
    intro entry running queue due
    rcases (coherent.sweeps running due).2 record found with ⟨named, dead⟩
    rw [named] at spared
    exact spared dead
  constructor
  case consistent => exact { coherent.consistent with }
  case ticketed => exact coherent.ticketed.scheduleAt deadline _
  case ledger => exact coherent.ledger
  case waiting => exact coherent.waiting
  case armed =>
    intro id other otherFound pending
    rcases coherent.armed otherFound pending with ⟨entry, running, due, handle⟩
    exact ⟨entry, kept entry running, due, handle⟩
  case settled => exact coherent.settled
  case beating =>
    intro id other otherFound otherActive otherSpared
    have notDead : other.queue ∉ r.registry.dead :=
      fun dead => otherSpared (Registry.mem_dead_markDead.mpr (Or.inr dead))
    rcases coherent.beating otherFound otherActive notDead with alive | failing
    · exact Or.inl alive
    · rw [first, ← named] at failing
      rcases List.mem_cons.mp failing with same | later
      · rcases only otherFound (Or.inr same.symm) with ⟨_, rfl⟩
        exact absurd (Registry.mem_dead_markDead.mpr (Or.inl rfl)) otherSpared
      · exact Or.inr later
  case purges =>
    intro entry name running due
    rcases Timers.mem_running_scheduleAt.mp running with rfl | running
    · cases due
    · exact coherent.purges running due
  case givenUp =>
    intro queue dead
    rcases Registry.mem_dead_markDead.mp dead with rfl | dead
    · exact ⟨record.id, record, found, rfl, active⟩
    · exact coherent.givenUp dead
  case doomed =>
    intro id other otherFound dead
    rcases Registry.mem_dead_markDead.mp dead with same | dead
    · rcases only otherFound (Or.inl same) with ⟨rfl, rfl⟩
      exact ⟨_, Timers.mem_running_scheduleAt.mpr (Or.inl rfl), rfl⟩
    · rcases coherent.doomed otherFound dead with ⟨entry, running, due⟩
      exact ⟨entry, kept entry running, due⟩
  case sweeps =>
    intro entry id queue running due
    rcases Timers.mem_running_scheduleAt.mp running with rfl | running
    · cases due
      refine ⟨coherent.consistent.fresh found, ?_⟩
      intro other otherFound
      cases found.symm.trans otherFound
      exact ⟨rfl, Registry.mem_dead_markDead.mpr (Or.inl rfl)⟩
    · rcases coherent.sweeps running due with ⟨bound, only⟩
      refine ⟨bound, ?_⟩
      intro other otherFound
      rcases only other otherFound with ⟨otherNamed, dead⟩
      exact ⟨otherNamed, Registry.mem_dead_markDead.mpr (Or.inr dead)⟩
  case once =>
    intro entry other id queue name running otherRunning due otherDue
    rcases Timers.mem_running_scheduleAt.mp running with rfl | running
    · cases due
      rcases Timers.mem_running_scheduleAt.mp otherRunning with rfl | otherRunning
      · rfl
      · exact absurd otherDue (unswept other otherRunning name)
    · rcases Timers.mem_running_scheduleAt.mp otherRunning with rfl | otherRunning
      · cases otherDue
        exact absurd due (unswept entry running queue)
      · exact coherent.once running otherRunning due otherDue
  case arrived => exact coherent.arrived

theorem Pulse.coherent (pulse : Pulse r after) (coherent : r.Coherent) : after.Coherent := by
  cases pulse with
  | heard message => exact coherent.remonitor_of_same (alive_handlePong r.monitor message)
  | rolled now deadline arrived failed =>
      have scheduled : (r.schedule deadline .beat).Coherent := coherent.schedule rfl
      exact scheduled.roll arrived failed now
  | welcomed heart rest id record first found pending named =>
      exact coherent.welcome first found pending named
  | unawaited heart rest first waiting =>
      refine coherent.remonitor ?_ coherent.beating ?_
      · intro id record found pending alive
        have arriving := (coherent.waiting found pending).2 alive
        rw [first] at arriving
        rcases List.mem_cons.mp arriving with same | later
        · have awaited := (Registry.pendingForHeart_eq_some_iff coherent.consistent).mpr
            ⟨record, found, pending, same⟩
          rw [waiting] at awaited
          contradiction
        · exact later
      · intro other later
        apply coherent.arrived other
        rw [first]
        exact List.mem_cons_of_mem heart later
  | gaveUp heart rest record deadline first found active named spared =>
      exact (coherent.giveUp first found active named spared).remonitor_of_same rfl
  | unconcerned heart rest first nobody =>
      refine coherent.remonitor (fun found pending => (coherent.waiting found pending).2) ?_
        coherent.arrived
      intro id record found active spared
      rcases coherent.beating found active spared with alive | failing
      · exact Or.inl alive
      · rw [first] at failing
        rcases List.mem_cons.mp failing with same | later
        · exact absurd (nobody id record found active same) spared
        · exact Or.inr later
  | resumed arrived failed => exact coherent.remonitor_of_same rfl

/-! ## All steps -/

theorem Step.coherent (step : r.Step after) (coherent : r.Coherent) : after.Coherent := by
  cases step with
  | handled handled => exact handled.coherent coherent
  | fired position entry stands fired => exact fired.coherent stands coherent
  | pulse pulse => exact pulse.coherent coherent

theorem Steps.coherent (steps : Steps r after) (coherent : r.Coherent) : after.Coherent := by
  induction steps with
  | refl => exact coherent
  | tail _ last inductionHypothesis => exact last.coherent inductionHypothesis

/-- An engine that has gone does not come back. -/
theorem Steps.gone {id : EngineId} (steps : Steps r after) (coherent : r.Coherent)
    (gone : r.Gone id) : after.Gone id := by
  induction steps with
  | refl => exact gone
  | tail earlier last inductionHypothesis =>
      exact last.gone (Steps.coherent earlier coherent).consistent inductionHypothesis

end ClusterHub.Core
