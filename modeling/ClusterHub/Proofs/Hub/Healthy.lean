import ClusterHub.Proofs.Hub.Lapsing

/-!
# Engines whose hearts keep up

The heart of an engine that registers is reported by the second beat at the
latest if it echoes the ping of the first.  Unless another time is set, the
engine waits for two intervals at least.  So it becomes active in time if the
first beat comes earlier than one interval after the registration.  A beat that
was made in the instant of the registration is followed by the second one after
it in the instant in which the engine's timer is due; that timer was set before
the beat was, and so it has its turn first.
-/

namespace ClusterHub

namespace Config

variable {config : Config} {now limit : Int}

theorem le_registrationTimeout (derived : config.registrationOverride = none) :
    (minRegistrationTimeout : Int) ≤ config.registrationTimeout ∧
      (config.heartbeat : Int) * 2 ≤ config.registrationTimeout := by
  unfold registrationTimeout
  rw [derived]
  exact ⟨Int.ofNat_le.mpr (Nat.le_max_left ..), Int.ofNat_le.mpr (Nat.le_max_right ..)⟩

/-- A registration outlasts the first beat. -/
theorem lt_of_first_beat (derived : config.registrationOverride = none)
    (soon : limit ≤ now + config.heartbeat) : limit < now + config.registrationTimeout := by
  have positive : 0 < (minRegistrationTimeout : Int) := by decide
  obtain ⟨least, twice⟩ := le_registrationTimeout derived
  omega

/-- A registration outlasts the second beat if the first is less than one interval
away. -/
theorem lt_of_second_beat (derived : config.registrationOverride = none)
    (soon : limit < now + config.heartbeat) :
    limit + config.heartbeat < now + config.registrationTimeout := by
  obtain ⟨_, twice⟩ := le_registrationTimeout derived
  omega

/-- A registration outlasts the second beat if intervals are short. -/
theorem lt_of_short (derived : config.registrationOverride = none)
    (short : (config.heartbeat : Int) * 2 < minRegistrationTimeout)
    (soon : limit ≤ now + config.heartbeat) :
    limit + config.heartbeat < now + config.registrationTimeout := by
  obtain ⟨least, _⟩ := le_registrationTimeout derived
  omega

/-- If intervals are long a registration does not outlast two of them. -/
theorem le_of_long (derived : config.registrationOverride = none)
    (long : ¬ (config.heartbeat : Int) * 2 < minRegistrationTimeout) :
    now + config.registrationTimeout ≤ now + config.heartbeat + config.heartbeat ∧
      now + config.registrationTimeout ≤ now + config.heartbeat * 2 := by
  have lasts : (config.registrationTimeout : Int) = config.heartbeat * 2 := by
    unfold registrationTimeout
    rw [derived]
    exact congrArg Int.ofNat (Nat.max_eq_right (Int.ofNat_le.mp (Int.not_lt.mp long)))
  omega

/-- Two beats take two intervals at most. -/
theorem le_of_two_beats (soon : limit ≤ now + config.heartbeat) :
    limit ≤ now + config.heartbeat * 2 ∧
      limit + config.heartbeat ≤ now + config.heartbeat * 2 := by
  omega

end Config

namespace Hub

variable {hub : Hub} {event : Event} {history : List Event} {id : EngineId}
  {record : EngineRecord} {handle : TimerHandle} {limit last : Instant} {count : Nat}
  {identity : Frame} {message : Message} {registration : Registration}

/-- How many beats are made in a history. -/
def beatsIn (hub : Hub) : List Event → Nat
  | [] => 0
  | event :: history => (hub.makesBeat event).toNat + (hub.react event).beatsIn history

/-- At any time of a history an engine has been active, or it waits and there have
been few beats, and not much time has gone by. -/
def Promotes (hub : Hub) (id : EngineId) (last : Instant) (count : Nat)
    (history : List Event) : Prop :=
  ∀ past, past <+: history → hub.everActive id past ∨
    (hub.run past).waits id ∧ (hub.run past).now ≤ last ∧ hub.beatsIn past ≤ count

theorem Promotes.mono {more : Nat} (promotes : hub.Promotes id last count history)
    (le : count ≤ more) : hub.Promotes id last more history := by
  intro past earlier
  rcases promotes past earlier with active | ⟨waits, early, few⟩
  · exact Or.inl active
  · exact Or.inr ⟨waits, early, Nat.le_trans few le⟩

theorem promotes_of_hasActive (active : hub.hasActive id) :
    hub.Promotes id last count history :=
  fun _ _ => Or.inl ⟨[], List.nil_prefix, active⟩

theorem promotes_nil (waits : hub.waits id) (early : hub.now ≤ last) :
    hub.Promotes id last count [] := by
  intro past earlier
  rw [List.prefix_nil.mp earlier]
  exact Or.inr ⟨waits, early, Nat.zero_le _⟩

theorem Promotes.cons (waits : hub.waits id) (early : hub.now ≤ last)
    (later : (hub.react event).Promotes id last count history) :
    hub.Promotes id last ((hub.makesBeat event).toNat + count) (event :: history) := by
  intro past earlier
  cases past with
  | nil => exact Or.inr ⟨waits, early, Nat.zero_le _⟩
  | cons first rest =>
      rcases List.cons_prefix_cons.mp earlier with ⟨rfl, inHistory⟩
      rcases later rest inHistory with active | ⟨still, soon, few⟩
      · exact Or.inl (everActive_cons.mpr (Or.inr active))
      · exact Or.inr ⟨still, soon, Nat.add_le_add_left few _⟩

theorem Promotes.cons_of_unbeaten (unbeaten : ¬ hub.beats event) (waits : hub.waits id)
    (early : hub.now ≤ last) (later : (hub.react event).Promotes id last count history) :
    hub.Promotes id last count (event :: history) := by
  have both := Promotes.cons waits early later
  rw [makesBeat_eq_false unbeaten, Bool.toNat_false, Nat.zero_add] at both
  exact both

/-- An engine that becomes active in the next event. -/
theorem promotes_of_next (waits : hub.waits id) (early : hub.now ≤ last)
    (active : (hub.react event).hasActive id) : hub.Promotes id last count (event :: history) := by
  intro past earlier
  cases past with
  | nil => exact Or.inr ⟨waits, early, Nat.zero_le _⟩
  | cons first rest =>
      rcases List.cons_prefix_cons.mp earlier with ⟨rfl, _⟩
      exact Or.inl (everActive_cons.mpr (Or.inr ⟨[], List.nil_prefix, active⟩))

/-- An engine that has been active whenever it does not wait is not withdrawn while
it waits. -/
theorem Promotes.not_withdraws (promotes : hub.Promotes id last count history)
    (orderly : hub.Orderly) (enough : hub.HasRoomFor history) {earlier later : List Event}
    (split : history = earlier ++ event :: later) : ¬ (hub.run earlier).withdraws id event := by
  rintro ⟨waits, gone⟩
  subst split
  have next : (hub.run (earlier ++ [event])).registry.engines[id]? = none := by
    rw [run_append]
    exact gone
  rcases promotes (earlier ++ [event]) ⟨later, by simp⟩ with ⟨past, before, active⟩ | ⟨still, _⟩
  · rcases List.prefix_concat_iff.mp before with rfl | before
    · rcases active with ⟨record, found, _⟩
      rw [next] at found
      contradiction
    · rcases before with ⟨rest, rfl⟩
      rcases active with ⟨record, found, active⟩
      have middle := orderly_run orderly enough.past.past
      have settled := settled_run middle (enough.past.future orderly)
        (settled_of_active middle.consistent found active)
      rw [run_append] at waits
      exact not_waits_of_settled settled waits
  · rcases still with ⟨record, found, _⟩
    rw [next] at found
    contradiction

/-- An engine waits, and the next beat comes before its timer is due. -/
structure Awaits (hub : Hub) (id : EngineId) (record : EngineRecord) (handle : TimerHandle)
    (limit : Instant) : Prop extends hub.IsWaiting id record handle where
  next : hub.beatsBy limit
  early : limit < handle.deadline

namespace Awaits

theorem now_le (awaits : hub.Awaits id record handle limit) (punctual : hub.Punctual)
    (le : limit ≤ last) : hub.now ≤ last :=
  Int.le_trans (awaits.next.now_le punctual) le

/-- Timers have their turns in order, so that of the engine does not come before the
beat. -/
theorem not_fires (awaits : hub.Awaits id record handle limit) (orderly : hub.Orderly)
    (punctual : hub.Punctual) (allowed : hub.allows event) : ¬ hub.fires handle.ticket event := by
  rintro ⟨position, entry, rfl, stands, active, same⟩
  rcases awaits.exists_running orderly with ⟨own, running, rfl⟩
  cases orderly.coherent.ticketed.eq_of_mem (List.mem_of_getElem? stands)
    (Timers.mem_running.mp running).1 same
  rcases awaits.next with ⟨beat, beatRunning, _, soon⟩
  obtain ⟨rfl, _⟩ := first_of_allows allowed stands
  have order := punctual.ordered.le_of_first stands (Timers.mem_running.mp beatRunning).1
  exact absurd (Int.le_trans order soon) (Int.not_le.mpr awaits.early)

/-- Nothing changes until the beat. -/
theorem react_of_unbeaten (awaits : hub.Awaits id record handle limit) (orderly : hub.Orderly)
    (room : hub.HasRoom event) (punctual : hub.Punctual) (allowed : hub.allows event)
    (unbeaten : ¬ hub.beats event) : (hub.react event).Awaits id record handle limit :=
  { awaits.react orderly room (fun reported => unbeaten reported.1)
      (awaits.not_fires orderly punctual allowed) with
    next := awaits.next.react_of_unbeaten orderly room unbeaten
    early := awaits.early }

/-- After the beat the engine waits for another one, if its heart was not reported
and there is time for that. -/
theorem react_of_beats (awaits : hub.Awaits id record handle limit) (orderly : hub.Orderly)
    (room : hub.HasRoom event) (punctual : hub.Punctual) (allowed : hub.allows event)
    (beaten : hub.beats event) (unreported : ¬ hub.reportsNew record.heart event)
    (time : limit + hub.monitor.interval < handle.deadline) :
    (hub.react event).Awaits id record handle (limit + hub.monitor.interval) :=
  { awaits.react orderly room unreported (awaits.not_fires orderly punctual allowed) with
    next := (beatsBy_react_of_beats orderly beaten).mono
      (Int.add_le_add_right (awaits.next.now_le punctual) _)
    early := time }

/-- An engine whose heart answers in the round that runs is active after the next
beat. -/
theorem promotes_of_answersInRound (awaits : hub.Awaits id record handle limit)
    (orderly : hub.Orderly) (enough : hub.HasRoomFor history) (punctual : hub.Punctual)
    (timely : hub.isTimely history) (le : limit ≤ last)
    (answers : hub.answersInRound record.heart history) : hub.Promotes id last 0 history := by
  induction history generalizing hub with
  | nil => exact promotes_nil awaits.waits (awaits.now_le punctual le)
  | cons event history inductionHypothesis =>
      rcases isTimely_cons.mp timely with ⟨allowed, later⟩
      have early := awaits.now_le punctual le
      rw [answersInRound] at answers
      by_cases beaten : hub.beats event
      · rw [if_pos beaten] at answers
        exact promotes_of_next awaits.waits early
          (awaits.hasActive_react orderly beaten (of_decide_eq_true answers))
      · rw [if_neg beaten] at answers
        have still := awaits.react_of_unbeaten orderly enough.head punctual allowed beaten
        exact .cons_of_unbeaten beaten awaits.waits early
          (inductionHypothesis still (orderly_react orderly enough.head) (enough.tail orderly)
            (punctual.react allowed) later answers)

/-- An engine whose heart keeps up is active after the second beat, if there is time
for that. -/
theorem promotes_of_keepsUp {owed : Option String} (awaits : hub.Awaits id record handle limit)
    (orderly : hub.Orderly) (enough : hub.HasRoomFor history) (punctual : hub.Punctual)
    (timely : hub.isTimely history) (time : limit + hub.monitor.interval < handle.deadline)
    (le : limit + hub.monitor.interval ≤ last) (keepsUp : hub.keepsUp record.heart owed history) :
    hub.Promotes id last 1 history := by
  have soon : limit ≤ last :=
    Int.le_trans (Int.le_add_of_nonneg_right (Int.natCast_nonneg _)) le
  induction history generalizing hub owed with
  | nil => exact promotes_nil awaits.waits (awaits.now_le punctual soon)
  | cons event history inductionHypothesis =>
      rcases isTimely_cons.mp timely with ⟨allowed, later⟩
      have next := orderly_react orderly enough.head
      have rest := enough.tail orderly
      have early := awaits.now_le punctual soon
      rw [Hub.keepsUp] at keepsUp
      by_cases beaten : hub.beats event
      · rw [if_pos beaten, Bool.and_eq_true_iff] at keepsUp
        by_cases responded : record.heart ∈ hub.monitor.liveness.responded
        · exact promotes_of_next awaits.waits early
            (awaits.hasActive_react orderly beaten responded)
        · have unreported : ¬ hub.reportsNew record.heart event :=
            fun reported => responded (mem_newHearts.mp reported.2).1
          have still := awaits.react_of_beats orderly enough.head punctual allowed beaten
            unreported time
          have answers := answersInRound_of_owes next rest (Or.inr rfl) keepsUp.2
          have second := still.promotes_of_answersInRound next rest (punctual.react allowed) later
            le answers
          have both := Promotes.cons awaits.waits early second
          rw [beats_iff.mp beaten] at both
          exact both
      · rw [if_neg beaten] at keepsUp
        have same : (hub.react event).monitor.interval = hub.monitor.interval :=
          (steps_react orderly enough.head).interval_eq
        have still := awaits.react_of_unbeaten orderly enough.head punctual allowed beaten
        exact .cons_of_unbeaten beaten awaits.waits early
          (inductionHypothesis still next rest (punctual.react allowed) later (same ▸ time)
            (same ▸ le) keepsUp)

end Awaits

/-! ## Registrations -/

/-- Whether a heart that keeps up is in time for an engine that has just registered:
it is alive, or it has answered when the next beat is made, or that beat is less
than one interval away, or intervals are short. -/
inductive HasTime (hub : Hub) (heart : String) (history : List Event) : Prop
  | alive (alive : hub.monitor.isAlive heart = true)
  | answered (answered : hub.answersInRound heart history)
  | ahead (limit : Instant) (next : hub.beatsBy limit)
      (soon : limit < hub.now + hub.config.heartbeat)
  | short (short : (hub.config.heartbeat : Int) * 2 < Config.minRegistrationTimeout)

/-- What is known of a hub when an engine registers whose heart is not alive. -/
structure Admits (hub : Hub) (message : Message) (identity : Frame) (registration : Registration) :
    Prop where
  orderly : hub.Orderly
  room : hub.HasRoom (.query message)
  punctual : hub.Punctual
  once : hub.BeatsOnce
  interval : hub.monitor.interval = hub.config.heartbeat
  next : hub.beatsBy (hub.now + hub.config.heartbeat)
  derived : hub.config.registrationOverride = none
  asks : IsRegistration message identity registration
  available : hub.registry.Available registration.heart registration.queue

namespace Admits

theorem isWaiting (admits : hub.Admits message identity registration)
    (silent : hub.monitor.isAlive registration.heart = false) :
    (hub.react (.query message)).IsWaiting hub.registry.nextId (hub.awaiting registration identity)
      ⟨hub.timers.issued + 1, hub.now + hub.config.registrationTimeout⟩ where
  found := found_of_enroll (congrArg Core.registry
    (core_dispatchQuery_of_silent admits.orderly.consistent admits.asks admits.available silent))
  pending := rfl
  armed := rfl

theorem now_react (hub : Hub) (message : Message) : (hub.react (.query message)).now = hub.now :=
  (meanwhile_dispatchQuery hub message).now

theorem monitor_react (admits : hub.Admits message identity registration) :
    (hub.react (.query message)).monitor = hub.monitor :=
  (handled_dispatchQuery admits.orderly.consistent admits.room).monitor_eq

theorem interval_react (admits : hub.Admits message identity registration) :
    (hub.react (.query message)).monitor.interval = hub.config.heartbeat := by
  rw [admits.monitor_react]
  exact admits.interval

theorem next_react (admits : hub.Admits message identity registration) :
    (hub.react (.query message)).beatsBy (hub.now + hub.config.heartbeat) :=
  admits.next.react_of_unbeaten admits.orderly admits.room (not_beats_query hub message)

/-- What the registration comes to if the heart is in time. -/
theorem promotes (admits : hub.Admits message identity registration)
    (enough : hub.HasRoomFor (.query message :: history))
    (timely : hub.isTimely (.query message :: history))
    (keepsUp : (hub.react (.query message)).keepsUp registration.heart none history)
    (time : (hub.react (.query message)).HasTime registration.heart history) :
    (hub.react (.query message)).Promotes hub.registry.nextId
      (hub.now + hub.config.heartbeat * 2) 1 history := by
  rcases isTimely_cons.mp timely with ⟨allowed, later⟩
  have after := orderly_react admits.orderly admits.room
  have rest := enough.tail admits.orderly
  have punctual := admits.punctual.react allowed
  cases alive : hub.monitor.isAlive registration.heart with
  | true =>
      have core := core_dispatchQuery_of_alive admits.orderly.consistent admits.room admits.asks
        admits.available alive
      exact promotes_of_hasActive ⟨_, found_of_enroll (congrArg Core.registry core), rfl⟩
  | false =>
      have waiting := admits.isWaiting alive
      cases time with
      | alive beating =>
          rw [admits.monitor_react, alive] at beating
          contradiction
      | answered answers =>
          have awaits := Awaits.mk waiting admits.next_react
            (Config.lt_of_first_beat admits.derived (Int.le_refl _))
          exact (awaits.promotes_of_answersInRound after rest punctual later
            (Config.le_of_two_beats (Int.le_refl _)).1 answers).mono (Nat.zero_le _)
      | ahead limit next soon =>
          rw [now_react, config_react] at soon
          have awaits := Awaits.mk waiting next
            (Config.lt_of_first_beat admits.derived (Int.le_of_lt soon))
          apply awaits.promotes_of_keepsUp after rest punctual later _ _ keepsUp
          · rw [admits.interval_react]
            exact Config.lt_of_second_beat admits.derived soon
          · rw [admits.interval_react]
            exact (Config.le_of_two_beats (Int.le_of_lt soon)).2
      | short short =>
          rw [config_react] at short
          have awaits := Awaits.mk waiting admits.next_react
            (Config.lt_of_first_beat admits.derived (Int.le_refl _))
          apply awaits.promotes_of_keepsUp after rest punctual later _ _ keepsUp
          · rw [admits.interval_react]
            exact Config.lt_of_short admits.derived short (Int.le_refl _)
          · rw [admits.interval_react]
            exact (Config.le_of_two_beats (Int.le_refl _)).2

/-- What it comes to if the heart is not in time. -/
theorem lapses (admits : hub.Admits message identity registration)
    (enough : hub.HasRoomFor (.query message :: history))
    (timely : hub.isTimely (.query message :: history))
    (late : ¬ (hub.react (.query message)).HasTime registration.heart history) :
    (hub.react (.query message)).Lapses hub.registry.nextId
      (hub.now + hub.config.heartbeat * 2) history := by
  rcases isTimely_cons.mp timely with ⟨allowed, later⟩
  have silent : hub.monitor.isAlive registration.heart = false := by
    rw [← Bool.not_eq_true, ← admits.monitor_react]
    exact fun alive => late (.alive alive)
  have long : ¬ (hub.config.heartbeat : Int) * 2 < Config.minRegistrationTimeout := by
    rw [← config_react hub (.query message)]
    exact fun short => late (.short short)
  have misses : (hub.react (.query message)).Misses hub.registry.nextId
      (hub.awaiting registration identity)
      ⟨hub.timers.issued + 1, hub.now + hub.config.registrationTimeout⟩
      (hub.now + hub.config.heartbeat) := by
    refine ⟨admits.isWaiting silent, admits.once.react admits.orderly admits.room allowed, ?_, ?_⟩
    · intro entry running due
      apply Int.not_lt.mp
      intro sooner
      rw [← now_react hub message, ← config_react hub (.query message)] at sooner
      exact late (.ahead entry.deadline ⟨entry, running, due, Int.le_refl _⟩ sooner)
    · rw [admits.interval_react]
      exact (Config.le_of_long admits.derived long).1
  exact misses.lapses (orderly_react admits.orderly admits.room) (enough.tail admits.orderly)
    (admits.punctual.react allowed) later (fun answers => late (.answered answers))
    (Config.le_of_long admits.derived long).2

end Admits

theorem IsAttached.admits {start : Hub} {past future : List Event} (attached : start.IsAttached)
    (few : start.admissions (past ++ .query message :: future) < UInt32.size)
    (timely : start.isTimely (past ++ .query message :: future))
    (derived : start.config.registrationOverride = none)
    (asks : IsRegistration message identity registration)
    (available : (start.run past).registry.Available registration.heart registration.queue) :
    (start.run past).Admits message identity registration := by
  have enough := attached.hasRoomFor few
  have before := (isTimely_append.mp timely).1
  have interval := attached.interval_run enough.past
  constructor
  case orderly => exact orderly_run attached.orderly enough.past
  case room => exact (enough.future attached.orderly).head
  case punctual => exact punctual_run attached.punctual before
  case once => exact beatsOnce_run attached.beatsOnce attached.orderly enough.past before
  case interval => exact interval
  case next =>
    rw [← interval, Hub.interval_run attached.orderly enough.past]
    exact beatsBy_run attached.orderly enough.past attached.beatsBy
  case derived =>
    rw [config_run]
    exact derived
  case asks => exact asks
  case available => exact available

/-- What the registration of an engine whose heart keeps up comes to, if no other time
is set.  If the heart is in time the registration is never withdrawn, and the
engine becomes active by the second beat, and by the time two intervals are over.
If it is not the engine never becomes active, and it has gone when two intervals
are over.  No time goes by but while the loop waits.  Numbers are 32 bits wide, so
that many registrations can succeed before one is given out again. -/
theorem keepsUp_outcome {start : Hub} {past future : List Event} (attached : start.IsAttached)
    (few : start.admissions (past ++ .query message :: future) < UInt32.size)
    (timely : start.isTimely (past ++ .query message :: future))
    (derived : start.config.registrationOverride = none)
    (asks : IsRegistration message identity registration)
    (available : (start.run past).registry.Available registration.heart registration.queue)
    (keepsUp : ((start.run past).react (.query message)).keepsUp registration.heart none future) :
    (((start.run past).react (.query message)).HasTime registration.heart future →
      ((start.run past).react (.query message)).Promotes (start.run past).registry.nextId
          ((start.run past).now + (start.run past).config.heartbeat * 2) 1 future ∧
        ∀ earlier event later, future = earlier ++ event :: later →
          ¬ (((start.run past).react (.query message)).run earlier).withdraws
            (start.run past).registry.nextId event) ∧
    (¬ ((start.run past).react (.query message)).HasTime registration.heart future →
      ((start.run past).react (.query message)).Lapses (start.run past).registry.nextId
        ((start.run past).now + (start.run past).config.heartbeat * 2) future) := by
  have admits := attached.admits few timely derived asks available
  have rest := (attached.hasRoomFor few).future attached.orderly
  have after := (isTimely_append.mp timely).2
  constructor
  · intro time
    have promotes := admits.promotes rest after keepsUp time
    refine ⟨promotes, ?_⟩
    intro earlier event later split
    exact promotes.not_withdraws (orderly_react admits.orderly admits.room)
      (rest.tail admits.orderly) split
  · exact admits.lapses rest after

/-- An engine registers between two beats, and its heart echoes the next ping. -/
theorem keepsUp_outcome_of_echo :
    let start := attached { heartbeat := .ofMillis 3000 } default default 0
    let registration : Registration := ⟨"heart-a", "queue-a", "a", []⟩
    let past : List Event := [.elapse (.ofMillis 1000)]
    let message := (Message.query .registration registration).pushFront (.ofText "a")
    let future : List Event := [.elapse (.ofMillis 2000), .timer 0,
      .echo "heart-a" (Monitor.stamp 3000000), .elapse (.ofMillis 3000), .timer 0]
    start.IsAttached ∧ start.admissions (past ++ .query message :: future) < UInt32.size ∧
      start.isTimely (past ++ .query message :: future) ∧
      start.config.registrationOverride = none ∧
      IsRegistration message (.ofText "a") registration ∧
      (start.run past).registry.Available registration.heart registration.queue ∧
      ((start.run past).react (.query message)).keepsUp registration.heart none future ∧
      ((start.run past).react (.query message)).HasTime registration.heart future ∧
      ((start.run past).react (.query message)).everActive (start.run past).registry.nextId
        future := by
  intro start registration past message future
  have attached : start.IsAttached := ⟨_, _, _, _, rfl⟩
  have few : start.admissions (past ++ .query message :: future) < UInt32.size := by
    decide +kernel
  have timely : start.isTimely (past ++ .query message :: future) := by decide +kernel
  have asks : IsRegistration message (.ofText "a") registration := ⟨rfl, rfl, rfl⟩
  have middle := orderly_run attached.orderly (attached.hasRoomFor few).past
  have free : (start.run past).registry.checkAvailable "heart-a" "queue-a" = .ok () := by
    rfl
  have available := Registry.available_of_checkAvailable middle.consistent free
  have keepsUp :
      ((start.run past).react (.query message)).keepsUp registration.heart none future := by
    decide +kernel
  have time : ((start.run past).react (.query message)).HasTime registration.heart future :=
    .ahead 3000000 (by decide +kernel) (by decide +kernel)
  have twice : ((start.run past).react (.query message)).beatsIn future = 2 := by decide +kernel
  have derived : start.config.registrationOverride = none := rfl
  -- What is known of the history now suffices; it need not be run again.
  clear_value start past message future
  refine ⟨attached, few, timely, derived, asks, available, keepsUp, time, ?_⟩
  have outcome := (keepsUp_outcome attached few timely derived asks available keepsUp).1 time
  have promotes := outcome.1 future (List.prefix_refl _)
  rcases promotes with active | ⟨_, _, once⟩
  · exact active
  · rw [twice] at once
    contradiction

/-- An engine registers in the instant of a beat, after it, and its heart echoes the
next ping, but the engine is withdrawn in the instant of the second beat after it. -/
theorem withdraws_of_keepsUp_at_beat :
    let start := attached { heartbeat := .ofMillis 3000 } default default 0
    let registration : Registration := ⟨"heart-a", "queue-a", "a", []⟩
    let past : List Event := [.elapse (.ofMillis 3000), .timer 0]
    let message := (Message.query .registration registration).pushFront (.ofText "a")
    let earlier : List Event := [.elapse (.ofMillis 3000), .timer 0,
      .echo "heart-a" (Monitor.stamp 6000000), .elapse (.ofMillis 3000)]
    let future : List Event := earlier ++ [.timer 0, .timer 0]
    start.IsAttached ∧ start.admissions (past ++ .query message :: future) < UInt32.size ∧
      start.isTimely (past ++ .query message :: future) ∧
      start.config.registrationOverride = none ∧
      IsRegistration message (.ofText "a") registration ∧
      (start.run past).registry.Available registration.heart registration.queue ∧
      ((start.run past).react (.query message)).keepsUp registration.heart none future ∧
      (((start.run past).react (.query message)).run earlier).withdraws
        (start.run past).registry.nextId (.timer 0) := by
  intro start registration past message earlier future
  have attached : start.IsAttached := ⟨_, _, _, _, rfl⟩
  have few : start.admissions (past ++ .query message :: future) < UInt32.size := by
    decide +kernel
  have timely : start.isTimely (past ++ .query message :: future) := by decide +kernel
  have middle := orderly_run attached.orderly (attached.hasRoomFor few).past
  have free : (start.run past).registry.checkAvailable "heart-a" "queue-a" = .ok () := by
    rfl
  have available := Registry.available_of_checkAvailable middle.consistent free
  have keepsUp :
      ((start.run past).react (.query message)).keepsUp registration.heart none future := by
    decide +kernel
  have withdrawn : (((start.run past).react (.query message)).run earlier).withdraws
      (start.run past).registry.nextId (.timer 0) := by
    decide +kernel
  exact ⟨attached, few, timely, rfl, ⟨rfl, rfl, rfl⟩, available, keepsUp, withdrawn⟩

end Hub

end ClusterHub
