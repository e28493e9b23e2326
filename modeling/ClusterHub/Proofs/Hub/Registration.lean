import ClusterHub.Proofs.Hub.Waiting

/-!
# The outcome of a registration

A registration whose identities are taken is refused.  Any other is given a new
number.  Its engine becomes active at once if its heart is alive, and otherwise
when a beat reports its heart, provided that this happens before its timer has
its turn; after that its number is never heard of again, and its identities can
be taken by others.
-/

namespace ClusterHub

namespace Hub

variable {hub : Hub} {event : Event} {history : List Event} {id : EngineId}
  {record : EngineRecord} {handle : TimerHandle} {heart : String} {ticket : Nat}

/-- Whether an engine is active. -/
def hasActive (hub : Hub) (id : EngineId) : Prop :=
  ∃ record, hub.registry.engines[id]? = some record ∧ record.state = .active

/-- Whether an engine is active at some time of a history. -/
def everActive (hub : Hub) (id : EngineId) (history : List Event) : Prop :=
  ∃ past, past <+: history ∧ (hub.run past).hasActive id

/-- Whether a timer has its turn in a history. -/
def everFires (hub : Hub) (ticket : Nat) (history : List Event) : Prop :=
  ∃ past event future, history = past ++ event :: future ∧ (hub.run past).fires ticket event

/-- Whether a beat reports a heart as new before a timer has its turn. -/
def reportsBefore (hub : Hub) (heart : String) (ticket : Nat) (history : List Event) : Prop :=
  ∃ past event future, history = past ++ event :: future ∧
    (hub.run past).reportsNew heart event ∧ ¬ hub.everFires ticket past

theorem everActive_nil : hub.everActive id [] ↔ hub.hasActive id := by
  constructor
  · rintro ⟨past, earlier, active⟩
    rw [List.prefix_nil.mp earlier] at active
    exact active
  · exact fun active => ⟨[], List.prefix_refl _, active⟩

theorem everActive_cons :
    hub.everActive id (event :: history) ↔
      hub.hasActive id ∨ (hub.react event).everActive id history := by
  constructor
  · rintro ⟨past, earlier, active⟩
    cases past with
    | nil => exact Or.inl active
    | cons first rest =>
        rcases List.cons_prefix_cons.mp earlier with ⟨rfl, inHistory⟩
        exact Or.inr ⟨rest, inHistory, active⟩
  · rintro (active | ⟨past, earlier, active⟩)
    · exact ⟨[], List.nil_prefix, active⟩
    · exact ⟨event :: past, List.cons_prefix_cons.mpr ⟨rfl, earlier⟩, active⟩

theorem not_everFires_nil : ¬ hub.everFires ticket [] :=
  not_happens_nil hub fun hub event => hub.fires ticket event

theorem everFires_cons :
    hub.everFires ticket (event :: history) ↔
      hub.fires ticket event ∨ (hub.react event).everFires ticket history :=
  happens_cons hub (fun hub event => hub.fires ticket event) event history

theorem not_reportsBefore_nil : ¬ hub.reportsBefore heart ticket [] := by
  rintro ⟨past, event, future, split, _⟩
  cases past <;> contradiction

theorem reportsBefore_cons :
    hub.reportsBefore heart ticket (event :: history) ↔
      hub.reportsNew heart event ∨
        ¬ hub.fires ticket event ∧ (hub.react event).reportsBefore heart ticket history := by
  constructor
  · rintro ⟨past, other, future, split, reported, unfired⟩
    cases past with
    | nil =>
        cases split
        exact Or.inl reported
    | cons first rest =>
        cases split
        rw [everFires_cons, not_or] at unfired
        exact Or.inr ⟨unfired.1, rest, other, future, rfl, reported, unfired.2⟩
  · rintro (reported | ⟨unfired, past, other, future, rfl, reported, earlier⟩)
    · exact ⟨[], event, history, rfl, reported, not_everFires_nil⟩
    · refine ⟨event :: past, other, future, rfl, reported, ?_⟩
      rw [everFires_cons, not_or]
      exact ⟨unfired, earlier⟩

theorem gone_run (orderly : hub.Orderly) (enough : hub.HasRoomFor history)
    (gone : hub.core.Gone id) : (hub.run history).core.Gone id :=
  (steps_run orderly enough).gone orderly.coherent gone

theorem not_everActive_of_gone (orderly : hub.Orderly) (enough : hub.HasRoomFor history)
    (gone : hub.core.Gone id) : ¬ hub.everActive id history := by
  rintro ⟨past, ⟨future, rfl⟩, record, found, _⟩
  have absent := (gone_run orderly enough.past gone).1
  rw [show (hub.run past).core.registry.engines[id]? = some record from found] at absent
  contradiction

theorem gone_of_withdraw {after : Hub} (orderly : hub.Orderly)
    (found : hub.registry.engines[id]? = some record)
    (withdrawn : after.registry = hub.registry.withdraw record) : after.core.Gone id := by
  constructor
  · change after.registry.engines[id]? = none
    rw [withdrawn, Registry.getElem?_withdraw, if_pos (orderly.consistent.identified found)]
  · change id < after.registry.nextId
    rw [withdrawn]
    exact orderly.consistent.fresh found

/-! ## Engines that wait -/

theorem not_hasActive_of_pending (found : hub.registry.engines[id]? = some record)
    (pending : record.state = .pending) : ¬ hub.hasActive id := by
  rintro ⟨other, otherFound, active⟩
  cases found.symm.trans otherFound
  rw [pending] at active
  contradiction

/-- An engine that waits becomes active exactly if its heart is reported in
time. -/
theorem everActive_iff_of_pending (orderly : hub.Orderly) (enough : hub.HasRoomFor history)
    (found : hub.registry.engines[id]? = some record) (pending : record.state = .pending)
    (armed : record.deletion = some handle) :
    hub.everActive id history ↔ hub.reportsBefore record.heart handle.ticket history := by
  induction history generalizing hub with
  | nil =>
      rw [everActive_nil]
      exact iff_of_false (not_hasActive_of_pending found pending) not_reportsBefore_nil
  | cons event history inductionHypothesis =>
      have inactive := not_hasActive_of_pending found pending
      have next := orderly_react orderly enough.head
      have rest := enough.tail orderly
      rw [everActive_cons, reportsBefore_cons]
      by_cases reported : hub.reportsNew record.heart event
      · refine iff_of_true (Or.inr ?_) (Or.inl reported)
        exact ⟨[], List.nil_prefix, record.activated,
          found_react_of_reported orderly found pending reported, rfl⟩
      · by_cases fired : hub.fires handle.ticket event
        · have withdrawn := registry_react_of_fired orderly found pending armed fired
          have never := not_everActive_of_gone next rest (gone_of_withdraw orderly found withdrawn)
          refine iff_of_false ?_ ?_
          · rintro (active | active)
            · exact inactive active
            · exact never active
          · rintro (early | ⟨unfired, _⟩)
            · exact reported early
            · exact unfired fired
        · have still :=
            found_react_of_neither orderly enough.head found pending armed reported fired
          have later := inductionHypothesis next rest still
          constructor
          · rintro (active | active)
            · exact absurd active inactive
            · exact Or.inr ⟨fired, later.mp active⟩
          · rintro (early | ⟨_, early⟩)
            · exact absurd early reported
            · exact Or.inr (later.mpr early)

/-- The timer of an engine that waits does not run on when nobody waits for the
heart any more. -/
theorem spent_of_unawaited {after : Hub} (orderly : hub.Orderly) (afterOrderly : after.Orderly)
    (steps : Core.Steps hub.core after.core) (found : hub.registry.engines[id]? = some record)
    (pending : record.state = .pending) (armed : record.deletion = some handle)
    (unawaited : ∀ (other : EngineId) (another : EngineRecord),
      after.registry.engines[other]? = some another → another.state = .pending →
      another.heart ≠ record.heart) :
    ∀ entry ∈ after.timers.running, entry.ticket ≠ handle.ticket := by
  intro entry running same
  rcases orderly.coherent.armed found pending with ⟨own, ownRunning, due, ownHandle⟩
  have ticket : own.ticket = handle.ticket := by
    rw [armed] at ownHandle
    exact (congrArg TimerHandle.ticket (Option.some.inj ownHandle)).symm
  have issued := orderly.coherent.ticketed.ticket_le ownRunning
  rcases steps.timers_extends.running entry running with before | later
  · have equal := orderly.coherent.ticketed.eq_of_running before ownRunning (same.trans ticket.symm)
    rw [← equal] at due
    obtain ⟨other, another, otherFound, otherPending, named, _⟩ :=
      afterOrderly.coherent.purges running due
    exact unawaited other another otherFound otherPending named
  · have bound : hub.timers.issued < entry.ticket := later
    have limit : own.ticket ≤ hub.timers.issued := issued
    omega

/-- A timer that was given out and does not run will not run again. -/
theorem spent_run (orderly : hub.Orderly) (enough : hub.HasRoomFor history)
    (issued : ticket ≤ hub.timers.issued)
    (spent : ∀ entry ∈ hub.timers.running, entry.ticket ≠ ticket) :
    ∀ entry ∈ (hub.run history).timers.running, entry.ticket ≠ ticket := by
  intro entry running same
  rcases (steps_run orderly enough).timers_extends.running entry running with before | later
  · exact spent entry before same
  · have bound : hub.timers.issued < entry.ticket := later
    omega

theorem not_everFires_of_spent (orderly : hub.Orderly) (enough : hub.HasRoomFor history)
    (issued : ticket ≤ hub.timers.issued)
    (spent : ∀ entry ∈ hub.timers.running, entry.ticket ≠ ticket) :
    ¬ hub.everFires ticket history := by
  rintro ⟨past, event, future, rfl, position, entry, _, stands, active, same⟩
  have running := Timers.mem_running.mpr ⟨List.mem_of_getElem? stands, active⟩
  exact spent_run orderly enough.past issued spent entry running same

/-- While its timer runs, an engine waits. -/
theorem found_run_of_running (orderly : hub.Orderly) (enough : hub.HasRoomFor history)
    (found : hub.registry.engines[id]? = some record) (pending : record.state = .pending)
    (armed : record.deletion = some handle) {entry : TimerEntry (Reactor.Alarm Duty)}
    (running : entry ∈ (hub.run history).timers.running) (same : entry.ticket = handle.ticket) :
    (hub.run history).registry.engines[id]? = some record := by
  induction history generalizing hub with
  | nil => exact found
  | cons event history inductionHypothesis =>
      have next := orderly_react orderly enough.head
      have rest := enough.tail orderly
      have steps := steps_react orderly enough.head
      have issued : handle.ticket ≤ (hub.react event).timers.issued := by
        rcases orderly.coherent.armed found pending with ⟨own, ownRunning, _, ownHandle⟩
        rw [armed] at ownHandle
        cases ownHandle
        exact Nat.le_trans (orderly.coherent.ticketed.ticket_le ownRunning)
          steps.timers_extends.issued
      have ended : (∀ (other : EngineId) (another : EngineRecord),
          (hub.react event).registry.engines[other]? = some another → another.state = .pending →
          another.heart ≠ record.heart) →
          ((hub.react event).run history).registry.engines[id]? = some record := by
        intro unawaited
        have spent := spent_of_unawaited orderly next steps found pending armed unawaited
        exact absurd same (spent_run next rest issued spent entry running)
      by_cases reported : hub.reportsNew record.heart event
      · apply ended
        intro other another otherFound otherPending named
        have welcomed := found_react_of_reported orderly found pending reported
        cases next.consistent.eq_of_heart otherFound welcomed named
        cases otherFound.symm.trans welcomed
        contradiction
      · by_cases fired : hub.fires handle.ticket event
        · apply ended
          intro other another otherFound _ named
          rw [registry_react_of_fired orderly found pending armed fired] at otherFound
          rcases Registry.found_of_withdraw otherFound with ⟨different, otherFound⟩
          rw [orderly.consistent.identified found] at different
          exact different (orderly.consistent.eq_of_heart found otherFound named.symm)
        · exact inductionHypothesis next rest
            (found_react_of_neither orderly enough.head found pending armed reported fired) running

/-- A well-formed request to join. -/
structure IsRegistration (message : Message) (identity : Frame) (registration : Registration) :
    Prop where
  sender : message.frame 0 = .ok identity
  tag : (message.text 1).bind QueryKind.ofTag = .ok .registration
  payload : message.payload Registration 2 = .ok registration

variable {message : Message} {identity : Frame} {registration : Registration}

theorem dispatchQuery_of_registration (asks : IsRegistration message identity registration) :
    hub.dispatchQuery message =
      match (hub.countQuery .registration).registerEngine identity message with
      | .ok hub => hub
      | .error fault => (hub.countQuery .registration).refuse identity .registration fault := by
  unfold dispatchQuery
  rw [asks.sender, asks.tag]
  rfl

/-- What becomes of a registration that is refused. -/
structure Refuses (hub after : Hub) (identity : Frame) (registration : Registration) : Prop where
  registry : after.registry = hub.registry
  told : ∃ fault,
    (fault = .queueInUse registration.queue ∨ fault = .heartInUse registration.heart) ∧
    after.state.outbox =
      hub.state.outbox ++ [.reply identity .registration (.ofFault fault) []]

theorem refuses_of_taken (consistent : hub.registry.Consistent)
    (asks : IsRegistration message identity registration)
    (taken : ¬ hub.registry.Available registration.heart registration.queue) :
    hub.Refuses (hub.dispatchQuery message) identity registration := by
  rcases Registry.checkAvailable_of_not_available consistent taken with ⟨fault, refused, named⟩
  have error : (hub.countQuery .registration).registerEngine identity message = .error fault :=
    registerEngine_of_refused asks.payload refused
  have own : fault.isCallersOwn := by rcases named with rfl | rfl <;> rfl
  rw [dispatchQuery_of_registration asks, error]
  simp only [refuse, own]
  exact ⟨rfl, fault, named, rfl⟩

theorem room_of_available (consistent : hub.registry.Consistent)
    (room : hub.HasRoom (.query message)) (asks : IsRegistration message identity registration)
    (available : hub.registry.Available registration.heart registration.queue) :
    hub.registry.nextId.toNat + 1 < UInt32.size := by
  have accepted : ∃ after, (hub.countQuery .registration).registerEngine identity message =
      .ok after := registerEngine_of_available consistent asks.payload available
  rcases accepted with ⟨after, accepted⟩
  refine room (decide_eq_true ?_)
  have next := nextId_registerEngine accepted
  change (hub.dispatchQuery message).core.registry.nextId ≠ hub.registry.nextId
  rw [dispatchQuery_of_registration asks, accepted]
  change after.core.registry.nextId ≠ hub.registry.nextId
  rw [next]
  exact EngineId.succ_ne_self hub.registry.nextId

theorem core_dispatchQuery_of_alive (consistent : hub.registry.Consistent)
    (room : hub.HasRoom (.query message)) (asks : IsRegistration message identity registration)
    (available : hub.registry.Available registration.heart registration.queue)
    (alive : hub.monitor.isAlive registration.heart = true) :
    (hub.dispatchQuery message).core = { hub.core with
      registry := hub.registry.enroll
        (hub.registry.applicant registration (some identity) hub.time).activated } := by
  have enough := room_of_available consistent room asks available
  have accepted : (hub.countQuery .registration).registerEngine identity message = .ok _ :=
    registerEngine_of_alive consistent enough asks.payload available alive
  rw [dispatchQuery_of_registration asks, accepted]
  rfl

theorem core_dispatchQuery_of_silent (consistent : hub.registry.Consistent)
    (asks : IsRegistration message identity registration)
    (available : hub.registry.Available registration.heart registration.queue)
    (silent : hub.monitor.isAlive registration.heart = false) :
    (hub.dispatchQuery message).core =
      { hub.core.schedule (hub.now + hub.config.registrationTimeout)
          (.purgeStalled registration.heart) with
        registry := hub.registry.enroll (hub.awaiting registration identity) } := by
  have accepted : (hub.countQuery .registration).registerEngine identity message = .ok _ :=
    registerEngine_of_silent consistent asks.payload available silent
  rw [dispatchQuery_of_registration asks, accepted]
  rfl

/-! ## The outcome -/

/-- What it comes to when the timer of an engine that waits has its turn. -/
structure Expires (before after : Hub) (id : EngineId) (registration : Registration)
    (future : List Event) : Prop where
  waited : ∃ record, before.registry.engines[id]? = some record ∧ record.state = .pending
  gone : after.registry.engines[id]? = none
  others : ∀ other, other ≠ id →
    after.registry.engines[other]? = before.registry.engines[other]?
  available : after.registry.checkAvailable registration.heart registration.queue = .ok ()
  never : ∀ past, past <+: future → (after.run past).registry.engines[id]? = none

/-- What becomes of a registration that is not refused.  Its number is the next
one, and its timer, if it needs one, has the next ticket. -/
structure Accepts (start : Hub) (past : List Event) (after : Hub) (registration : Registration)
    (future : List Event) : Prop where
  fresh : ∀ earlier, earlier <+: past →
    (start.run earlier).registry.engines[(start.run past).registry.nextId]? = none
  next : after.registry.nextId = (start.run past).registry.nextId + 1
  found : ∃ record, after.registry.engines[(start.run past).registry.nextId]? = some record ∧
    record.queue = registration.queue ∧ record.heart = registration.heart ∧
    record.name = registration.name ∧ record.services = registration.services
  others : ∀ other, other ≠ (start.run past).registry.nextId →
    after.registry.engines[other]? = (start.run past).registry.engines[other]?
  active : after.everActive (start.run past).registry.nextId future ↔
    (start.run past).monitor.isAlive registration.heart = true ∨
      after.reportsBefore registration.heart ((start.run past).timers.issued + 1) future
  timer : (start.run past).monitor.isAlive registration.heart = false →
    ⟨(start.run past).now + (start.run past).config.registrationTimeout,
      (start.run past).timers.issued + 1, true, .own (.purgeStalled registration.heart)⟩ ∈
        after.timers.running
  expires : (start.run past).monitor.isAlive registration.heart = false →
    ∀ earlier event later, future = earlier ++ event :: later →
      (after.run earlier).fires ((start.run past).timers.issued + 1) event →
      Expires (after.run earlier) ((after.run earlier).react event)
        (start.run past).registry.nextId registration later

/-- Numbers that are still to be given out were not given out before. -/
theorem fresh_nextId {start : Hub} {past : List Event} (orderly : start.Orderly)
    (enough : start.HasRoomFor past) {earlier : List Event} (before : earlier <+: past) :
    (start.run earlier).registry.engines[(start.run past).registry.nextId]? = none := by
  rcases before with ⟨rest, rfl⟩
  have middle := orderly_run orderly enough.past
  rw [run_append]
  cases found : (start.run earlier).registry.engines[
      ((start.run earlier).run rest).registry.nextId]? with
  | none => rfl
  | some record =>
      have bound := middle.consistent.fresh found
      rw [UInt32.lt_iff_toNat_lt, toNat_nextId_run middle (enough.future orderly)] at bound
      exact absurd (Nat.le_add_right _ _) (Nat.not_le_of_lt bound)

theorem expires_of_fires {after : Hub} {earlier later : List Event} (orderly : after.Orderly)
    (enough : after.HasRoomFor (earlier ++ event :: later))
    (found : after.registry.engines[id]? = some record) (pending : record.state = .pending)
    (armed : record.deletion = some handle) (named : record.queue = registration.queue)
    (heartNamed : record.heart = registration.heart)
    (fired : (after.run earlier).fires handle.ticket event) :
    Expires (after.run earlier) ((after.run earlier).react event) id registration later := by
  have middle := orderly_run orderly enough.past
  have rest := enough.future orderly
  have still : (after.run earlier).registry.engines[id]? = some record := by
    rcases fired with ⟨position, entry, _, stands, active, same⟩
    have running := Timers.mem_running.mpr ⟨List.mem_of_getElem? stands, active⟩
    exact found_run_of_running orderly enough.past found pending armed running same
  have withdrawn := registry_react_of_fired middle still pending armed fired
  have next := orderly_react middle rest.head
  have numbered := middle.consistent.identified still
  have gone := gone_of_withdraw middle still withdrawn
  constructor
  case waited => exact ⟨record, still, pending⟩
  case gone => exact gone.1
  case others =>
    intro other different
    rw [withdrawn, Registry.getElem?_withdraw, if_neg]
    rw [numbered]
    exact different.symm
  case available =>
    apply Registry.checkAvailable_of_available next.consistent
    intro other another otherFound
    rw [withdrawn] at otherFound
    rcases Registry.found_of_withdraw otherFound with ⟨different, otherFound⟩
    rw [numbered] at different
    rw [← named, ← heartNamed]
    constructor
    · intro same
      exact different (middle.consistent.eq_of_queue still otherFound same.symm)
    · intro same
      exact different (middle.consistent.eq_of_heart still otherFound same.symm)
  case never =>
    rintro past ⟨rest', rfl⟩
    exact (gone_run next (rest.tail middle).past gone).1

/-- An engine that was enrolled is found under the next number, and the others
where they were. -/
theorem found_of_enroll {after : Hub}
    (registry : after.registry = hub.registry.enroll record) :
    after.registry.engines[hub.registry.nextId]? = some record := by
  rw [registry, Registry.getElem?_enroll, if_pos rfl]

theorem others_of_enroll {after : Hub} (registry : after.registry = hub.registry.enroll record)
    (other : EngineId) (different : other ≠ hub.registry.nextId) :
    after.registry.engines[other]? = hub.registry.engines[other]? := by
  rw [registry, Registry.getElem?_enroll, if_neg different.symm]

theorem accepts_of_alive {start : Hub} {past future : List Event} (orderly : start.Orderly)
    (enough : start.HasRoomFor (past ++ .query message :: future))
    (asks : IsRegistration message identity registration)
    (available : (start.run past).registry.Available registration.heart registration.queue)
    (alive : (start.run past).monitor.isAlive registration.heart = true) :
    Accepts start past ((start.run past).react (.query message)) registration future := by
  have middle := orderly_run orderly enough.past
  have core := core_dispatchQuery_of_alive middle.consistent (enough.future orderly).head asks
    available alive
  have registry : ((start.run past).react (.query message)).registry =
      (start.run past).registry.enroll ((start.run past).registry.applicant registration
        (some identity) (start.run past).time).activated := congrArg Core.registry core
  have found := found_of_enroll registry
  constructor
  case fresh => exact fun earlier before => fresh_nextId orderly enough.past before
  case next => exact congrArg Registry.nextId registry
  case found => exact ⟨_, found, rfl, rfl, rfl, rfl⟩
  case others => exact others_of_enroll registry
  case active => exact iff_of_true ⟨[], List.nil_prefix, _, found, rfl⟩ (Or.inl alive)
  case timer =>
    rw [alive]
    exact nofun
  case expires =>
    rw [alive]
    exact nofun

theorem accepts_of_silent {start : Hub} {past future : List Event} (orderly : start.Orderly)
    (enough : start.HasRoomFor (past ++ .query message :: future))
    (asks : IsRegistration message identity registration)
    (available : (start.run past).registry.Available registration.heart registration.queue)
    (silent : (start.run past).monitor.isAlive registration.heart = false) :
    Accepts start past ((start.run past).react (.query message)) registration future := by
  have middle := orderly_run orderly enough.past
  have rest := enough.future orderly
  have next := orderly_react middle rest.head
  have core := core_dispatchQuery_of_silent middle.consistent asks available silent
  have registry : ((start.run past).react (.query message)).registry =
      (start.run past).registry.enroll ((start.run past).awaiting registration identity) :=
    congrArg Core.registry core
  have timers : ((start.run past).react (.query message)).timers =
      ((start.run past).timers.scheduleAt
        ((start.run past).now + (start.run past).config.registrationTimeout)
        (.own (.purgeStalled registration.heart))).2 := congrArg Core.timers core
  have found := found_of_enroll registry
  constructor
  case fresh => exact fun earlier before => fresh_nextId orderly enough.past before
  case next => exact congrArg Registry.nextId registry
  case found => exact ⟨_, found, rfl, rfl, rfl, rfl⟩
  case others => exact others_of_enroll registry
  case active =>
    have outcome := everActive_iff_of_pending next (rest.tail middle) found rfl rfl
    apply outcome.trans
    rw [silent]
    constructor
    · exact Or.inr
    · rintro (alive | reported)
      · contradiction
      · exact reported
  case timer =>
    intro _
    rw [timers]
    exact Timers.mem_running_scheduleAt.mpr (Or.inl rfl)
  case expires =>
    rintro _ earlier event later rfl fired
    exact expires_of_fires next (rest.tail middle) found rfl rfl rfl rfl fired

/-- The outcome of every registration, whatever happened before and whatever
happens afterwards.  Numbers are 32 bits wide, so that many registrations can
succeed before one is given out again. -/
theorem registration_outcome {start : Hub} {past future : List Event} (attached : start.IsAttached)
    (few : start.admissions (past ++ .query message :: future) < UInt32.size)
    (asks : IsRegistration message identity registration) :
    (¬ (start.run past).registry.Available registration.heart registration.queue →
      Refuses (start.run past) ((start.run past).react (.query message)) identity registration) ∧
    ((start.run past).registry.Available registration.heart registration.queue →
      Accepts start past ((start.run past).react (.query message)) registration future) := by
  have orderly := attached.orderly
  have enough := attached.hasRoomFor few
  constructor
  · intro taken
    exact refuses_of_taken (orderly_run orderly enough.past).consistent asks taken
  · intro available
    cases alive : (start.run past).monitor.isAlive registration.heart with
    | true => exact accepts_of_alive orderly enough asks available alive
    | false => exact accepts_of_silent orderly enough asks available alive

/-- An engine registers before its heart has been seen, after another one did
under other identities, and its heart is reported by the next beat. -/
theorem registration_outcome_of_echo :
    let start := attached {} default default 0
    let registration : Registration := ⟨"heart-b", "queue-b", "b", []⟩
    let past : List Event := [.registration (.ofText "a") ⟨"heart-a", "queue-a", "a", []⟩]
    let message := (Message.query .registration registration).pushFront (.ofText "b")
    let future : List Event := [.echo "heart-b" start.monitor.currentPing, .beat]
    start.IsAttached ∧ start.admissions (past ++ .query message :: future) < UInt32.size ∧
      IsRegistration message (.ofText "b") registration ∧
      (start.run past).registry.Available registration.heart registration.queue ∧
      Accepts start past ((start.run past).react (.query message)) registration future := by
  intro start registration past message future
  have attached : start.IsAttached := ⟨_, _, _, _, rfl⟩
  have few : start.admissions (past ++ .query message :: future) < UInt32.size := by
    decide +kernel
  have asks : IsRegistration message (.ofText "b") registration := ⟨rfl, rfl, rfl⟩
  have middle := orderly_run attached.orderly (attached.hasRoomFor few).past
  have free : (start.run past).registry.checkAvailable "heart-b" "queue-b" = .ok () := by
    rfl
  have available := Registry.available_of_checkAvailable middle.consistent free
  exact ⟨attached, few, asks, available, (registration_outcome attached few asks).2 available⟩

end Hub

end ClusterHub
