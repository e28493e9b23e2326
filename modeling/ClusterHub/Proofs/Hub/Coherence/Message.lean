import ClusterHub.Proofs.Hub.Coherence.Basic

/-!
# Coherence under messages and timers

Engines come with their timers and go with them, so messages and timers keep a
core coherent.
-/

namespace ClusterHub.Core

variable {r after : Core}

/-- A new engine fits in if it waits and has a timer, or is settled. -/
theorem Coherent.enroll (coherent : r.Coherent) {record : EngineRecord}
    {timers : Timers (Reactor.Alarm Duty)} (numbered : record.id = r.registry.nextId)
    (available : r.registry.Available record.heart record.queue)
    (room : r.registry.nextId.toNat + 1 < UInt32.size) (ticketed : timers.Ticketed)
    (kept : ∀ entry ∈ r.timers.running, entry ∈ timers.running)
    (added : ∀ entry ∈ timers.running, entry ∈ r.timers.running ∨
      entry.action = .own (.purgeStalled record.heart) ∧ record.state = .pending ∧
        record.deletion = some entry.handle)
    (waiting : record.state = .pending → record.requester.isSome ∧ record.heart ∉ r.alive ∧
      ∃ entry ∈ timers.running, entry.action = .own (.purgeStalled record.heart) ∧
        record.deletion = some entry.handle)
    (settled : record.state = .active →
      record.requester = none ∧ record.deletion = none ∧ record.heart ∈ r.alive) :
    Coherent { r with timers, registry := r.registry.enroll record } := by
  have sweepsBefore : ∀ {entry : TimerEntry (Reactor.Alarm Duty)} {id : EngineId} {queue : String},
      entry ∈ timers.running → entry.action = .own (.sweepStranded id queue) →
      entry ∈ r.timers.running := by
    intro entry id queue running due
    rcases added entry running with before | ⟨purging, _⟩
    · exact before
    · rw [due] at purging
      cases purging
  constructor
  case consistent => exact coherent.consistent.enroll numbered available room
  case ticketed => exact ticketed
  case ledger => exact coherent.ledger
  case waiting =>
    intro id other found pending
    rcases Registry.eq_or_found_of_enroll found with ⟨_, rfl⟩ | ⟨_, found⟩
    · rcases waiting pending with ⟨requested, silent, _⟩
      exact ⟨requested, fun alive => absurd alive silent⟩
    · exact coherent.waiting found pending
  case armed =>
    intro id other found pending
    rcases Registry.eq_or_found_of_enroll found with ⟨_, rfl⟩ | ⟨_, found⟩
    · exact (waiting pending).2.2
    · rcases coherent.armed found pending with ⟨entry, running, due, handle⟩
      exact ⟨entry, kept entry running, due, handle⟩
  case settled =>
    intro id other found active
    rcases Registry.eq_or_found_of_enroll found with ⟨_, rfl⟩ | ⟨_, found⟩
    · rcases settled active with ⟨told, idle, _⟩
      exact ⟨told, idle⟩
    · exact coherent.settled found active
  case beating =>
    intro id other found active spared
    rcases Registry.eq_or_found_of_enroll found with ⟨_, rfl⟩ | ⟨_, found⟩
    · exact Or.inl (settled active).2.2
    · have unlike : record.queue ≠ other.queue := Ne.symm (available id other found).1
      apply coherent.beating found active
      intro dead
      exact spared (Registry.mem_dead_enroll.mpr ⟨unlike, dead⟩)
  case purges =>
    intro entry heart running due
    rcases added entry running with before | ⟨purging, pending, handle⟩
    · rcases coherent.purges before due with ⟨id, other, found, rest⟩
      exact ⟨id, other, coherent.consistent.found_enroll found, rest⟩
    · rw [due] at purging
      cases purging
      refine ⟨r.registry.nextId, record, ?_, pending, rfl, handle⟩
      rw [Registry.getElem?_enroll, if_pos rfl]
  case givenUp =>
    intro queue dead
    rcases coherent.givenUp (Registry.mem_dead_enroll.mp dead).2 with ⟨id, other, found, rest⟩
    exact ⟨id, other, coherent.consistent.found_enroll found, rest⟩
  case doomed =>
    intro id other found dead
    rcases Registry.mem_dead_enroll.mp dead with ⟨unlike, dead⟩
    rcases Registry.eq_or_found_of_enroll found with ⟨_, rfl⟩ | ⟨_, found⟩
    · exact absurd rfl unlike
    · rcases coherent.doomed found dead with ⟨entry, running, due⟩
      exact ⟨entry, kept entry running, due⟩
  case sweeps =>
    intro entry id queue running due
    rcases coherent.sweeps (sweepsBefore running due) due with ⟨bound, only⟩
    refine ⟨(EngineId.lt_succ_iff room).mpr (Or.inl bound), ?_⟩
    intro other found
    rcases Registry.eq_or_found_of_enroll found with ⟨rfl, _⟩ | ⟨_, found⟩
    · exact absurd bound (UInt32.lt_irrefl _)
    · rcases only other found with ⟨named, dead⟩
      have unlike : record.queue ≠ queue := by
        rw [← named]
        exact Ne.symm (available id other found).1
      exact ⟨named, Registry.mem_dead_enroll.mpr ⟨unlike, dead⟩⟩
  case once =>
    intro entry other id queue name running otherRunning due otherDue
    exact coherent.once (sweepsBefore running due) (sweepsBefore otherRunning otherDue) due otherDue
  case arrived => exact coherent.arrived

/-- An engine can go if its timer goes with it; timers that concern others must
stay. -/
theorem Coherent.withdraw (coherent : r.Coherent) {id : EngineId} {record : EngineRecord}
    {timers : Timers (Reactor.Alarm Duty)} (found : r.registry.engines[id]? = some record)
    (ticketed : timers.Ticketed) (fewer : ∀ entry ∈ timers.running, entry ∈ r.timers.running)
    (keptPurges : ∀ entry ∈ r.timers.running, ∀ heart, heart ≠ record.heart →
      entry.action = .own (.purgeStalled heart) → entry ∈ timers.running)
    (keptSweeps : ∀ entry ∈ r.timers.running, ∀ other queue, other ≠ id →
      entry.action = .own (.sweepStranded other queue) → entry ∈ timers.running)
    (disarmed : ∀ entry ∈ timers.running, record.deletion ≠ some entry.handle) :
    Coherent { r with timers, registry := r.registry.withdraw record } := by
  have numbered : record.id = id := coherent.consistent.identified found
  have unlike : ∀ {other : EngineId} {another : EngineRecord}, record.id ≠ other →
      r.registry.engines[other]? = some another →
      another.queue ≠ record.queue ∧ another.heart ≠ record.heart := by
    intro other another different otherFound
    rw [numbered] at different
    constructor
    · intro same
      exact different (coherent.consistent.eq_of_queue found otherFound same.symm)
    · intro same
      exact different (coherent.consistent.eq_of_heart found otherFound same.symm)
  constructor
  case consistent => exact coherent.consistent.withdraw found
  case ticketed => exact ticketed
  case ledger => exact coherent.ledger
  case waiting =>
    intro other another otherFound pending
    exact coherent.waiting (Registry.found_of_withdraw otherFound).2 pending
  case armed =>
    intro other another otherFound pending
    rcases Registry.found_of_withdraw otherFound with ⟨different, otherFound⟩
    rcases coherent.armed otherFound pending with ⟨entry, running, due, handle⟩
    exact ⟨entry, keptPurges entry running _ (unlike different otherFound).2 due, due, handle⟩
  case settled =>
    intro other another otherFound active
    exact coherent.settled (Registry.found_of_withdraw otherFound).2 active
  case beating =>
    intro other another otherFound active spared
    rcases Registry.found_of_withdraw otherFound with ⟨different, otherFound⟩
    apply coherent.beating otherFound active
    intro dead
    exact spared (Registry.mem_dead_withdraw.mpr ⟨(unlike different otherFound).1.symm, dead⟩)
  case purges =>
    intro entry heart running due
    obtain ⟨other, another, otherFound, pending, named, handle⟩ :=
      coherent.purges (fewer entry running) due
    have different : record.id ≠ other := by
      rintro rfl
      rw [numbered, found] at otherFound
      cases otherFound
      exact disarmed entry running handle
    exact ⟨other, another, Registry.found_withdraw different otherFound, pending, named, handle⟩
  case givenUp =>
    intro queue dead
    rcases Registry.mem_dead_withdraw.mp dead with ⟨otherQueue, dead⟩
    rcases coherent.givenUp dead with ⟨other, another, otherFound, named, active⟩
    have different : record.id ≠ other := by
      rintro rfl
      rw [numbered, found] at otherFound
      cases otherFound
      exact otherQueue named
    exact ⟨other, another, Registry.found_withdraw different otherFound, named, active⟩
  case doomed =>
    intro other another otherFound dead
    rcases Registry.found_of_withdraw otherFound with ⟨different, otherFound⟩
    obtain ⟨entry, running, due⟩ :=
      coherent.doomed otherFound (Registry.mem_dead_withdraw.mp dead).2
    rw [numbered] at different
    exact ⟨entry, keptSweeps entry running other another.queue different.symm due, due⟩
  case sweeps =>
    intro entry other queue running due
    rcases coherent.sweeps (fewer entry running) due with ⟨bound, only⟩
    refine ⟨bound, ?_⟩
    intro another otherFound
    rcases Registry.found_of_withdraw otherFound with ⟨different, otherFound⟩
    rcases only another otherFound with ⟨named, dead⟩
    have otherQueue : record.queue ≠ queue := by
      rw [← named]
      exact (unlike different otherFound).1.symm
    exact ⟨named, Registry.mem_dead_withdraw.mpr ⟨otherQueue, dead⟩⟩
  case once =>
    intro entry other number queue name running otherRunning due otherDue
    exact coherent.once (fewer entry running) (fewer other otherRunning) due otherDue
  case arrived => exact coherent.arrived

/-! ## Messages -/

theorem Noted.coherent (noted : r.Noted after) (coherent : r.Coherent) : after.Coherent := by
  rcases noted with ⟨operations, _, rfl⟩
  exact { coherent with ledger := coherent.ledger.performAll operations }

theorem Handled.coherent (handled : r.Handled after) (coherent : r.Coherent) :
    after.Coherent := by
  cases handled with
  | noted after noted => exact noted.coherent coherent
  | stopping deadline => exact coherent.schedule rfl
  | joined record numbered available room active told settled alive =>
      refine coherent.enroll numbered available room coherent.ticketed
        (fun _ running => running) (fun _ running => Or.inl running) ?_
        (fun _ => ⟨told, settled, alive⟩)
      intro pending
      rw [active] at pending
      contradiction
  | waiting record deadline numbered available room pending requested armed silent =>
      refine coherent.enroll numbered available room (coherent.ticketed.scheduleAt deadline _)
        ?_ ?_ ?_ ?_
      · intro entry running
        exact Timers.mem_running_scheduleAt.mpr (Or.inr running)
      · intro entry running
        rcases Timers.mem_running_scheduleAt.mp running with rfl | running
        · exact Or.inr ⟨rfl, pending, armed⟩
        · exact Or.inl running
      · intro _
        exact ⟨requested, silent, _, Timers.mem_running_scheduleAt.mpr (Or.inl rfl), rfl, armed⟩
      · intro active
        rw [active] at pending
        contradiction
  | left id record found active =>
      have idle : record.deletion = none := (coherent.settled found active).2
      rw [idle]
      refine coherent.withdraw found coherent.ticketed (fun _ running => running)
        (fun _ running _ _ _ => running) (fun _ running _ _ _ _ => running) ?_
      intro entry running handle
      rw [idle] at handle
      contradiction

variable {position : Nat} {entry : TimerEntry (Reactor.Alarm Duty)}

theorem Fired.coherent (fired : r.Fired position entry after)
    (stands : r.timers.entries[position]? = some entry) (coherent : r.Coherent) :
    after.Coherent := by
  have ticketed : (r.timers.dropAt position).Ticketed := coherent.ticketed.dropAt position
  have dropped : ∀ {other : TimerEntry (Reactor.Alarm Duty)},
      other ∈ (r.timers.dropAt position).running ↔
        other ∈ r.timers.running ∧ other.ticket ≠ entry.ticket :=
    coherent.ticketed.mem_running_dropAt stands
  -- A timer that runs on and does something else is another timer.
  have different : ∀ other ∈ r.timers.running, (entry.active → other.action ≠ entry.action) →
      other.ticket ≠ entry.ticket := by
    intro other running unlike same
    rcases Timers.mem_running.mp running with ⟨member, active⟩
    have equal := coherent.ticketed.eq_of_mem member (List.mem_of_getElem? stands) same
    rw [equal] at active
    exact unlike active (congrArg TimerEntry.action equal)
  cases fired with
  | expired idle =>
      apply coherent.retime ticketed (fun _ running _ => (dropped.mp running).1)
      intro other running concerned _
      refine dropped.mpr ⟨running, different other running ?_⟩
      intro active same
      rw [same, idle active] at concerned
      contradiction
  | purged id record active due found pending =>
      have remains : ∀ other ∈ r.timers.running,
          other.action ≠ .own (.purgeStalled record.heart) →
          other ∈ ((r.timers.dropAt position).disarm record.deletion).running := by
        intro other running unlike
        refine Timers.mem_running_disarm.mpr ⟨dropped.mpr ⟨running, ?_⟩, ?_⟩
        · apply different other running
          intro _
          rw [due]
          exact unlike
        · intro handle armed
          exact coherent.ticket_ne_of_pending found pending armed running unlike
      refine coherent.withdraw found (ticketed.disarm record.deletion) ?_ ?_ ?_ ?_
      · intro other running
        exact (dropped.mp (Timers.mem_running_disarm.mp running).1).1
      · intro other running heart unlike purging
        apply remains other running
        rw [purging]
        intro same
        cases same
        exact unlike rfl
      · intro other running number queue _ sweeping
        apply remains other running
        rw [sweeping]
        intro same
        cases same
      · intro other running same
        exact (Timers.mem_running_disarm.mp running).2 other.handle same rfl
  | purgedNothing heart active due waiting =>
      have running := Timers.mem_running.mpr ⟨List.mem_of_getElem? stands, active⟩
      rcases coherent.purges running due with ⟨id, record, found, pending, named, _⟩
      have found := (Registry.pendingForHeart_eq_some_iff coherent.consistent).mpr
        ⟨record, found, pending, named⟩
      rw [waiting] at found
      contradiction
  | swept id queue now record active due found =>
      have running := Timers.mem_running.mpr ⟨List.mem_of_getElem? stands, active⟩
      have seen := (coherent.swept_active running due found).2.2
      have idle : record.deletion = none := (coherent.settled found seen).2
      have remaining : Coherent { r with
          timers := r.timers.dropAt position, registry := r.registry.withdraw record } := by
        refine coherent.withdraw found ticketed (fun _ running => (dropped.mp running).1) ?_ ?_ ?_
        · intro other running heart _ purging
          refine dropped.mpr ⟨running, different other running ?_⟩
          intro _
          rw [purging, due]
          intro same
          cases same
        · intro other running number name unlike sweeping
          refine dropped.mpr ⟨running, different other running ?_⟩
          intro _
          rw [sweeping, due]
          intro same
          cases same
          exact unlike rfl
        · intro other _ handle
          rw [idle] at handle
          contradiction
      rw [idle]
      exact { remaining with ledger := coherent.ledger.strandedSweep id queue now }
  | sweptNobody id queue now active due absent =>
      have remaining : Coherent { r with timers := r.timers.dropAt position } := by
        apply coherent.retime ticketed (fun _ running _ => (dropped.mp running).1)
        intro other running _ present
        refine dropped.mpr ⟨running, different other running ?_⟩
        intro _ same
        have there := present id queue (same.trans due)
        rw [absent] at there
        contradiction
      exact { remaining with ledger := coherent.ledger.strandedSweep id queue now }

end ClusterHub.Core
