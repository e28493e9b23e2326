import ClusterHub.Proofs.Heart.Course
import ClusterHub.Proofs.Heart.Echo
import ClusterHub.Proofs.Heart.PingClock
import ClusterHub.Proofs.Heart.Round
import Mathlib.Data.List.Induction

/-!
# Fresh echoes

An echo counts if it is that of one of the last two pings.  No two pings have
the same text, if the beats are a microsecond apart; so an echo of an older one
never counts, however often it comes.  What a monitor holds of a heart follows
from the rounds in which it has sent an echo that counts.
-/

namespace ClusterHub.MonitorWorld

variable {η ρ α : Type}

/-- The world of a monitor that was just set up.  The clock of its pings may show
any time. -/
structure Begins (world : MonitorWorld η ρ α) : Prop where
  previous : world.rest.monitor.clock.previous = world.rest.monitor.clock.current
  moved : world.rest.monitor.clock.moved = world.now
  liveness : world.rest.monitor.liveness = {}
  pings : world.rest.pings = []

/-- The texts of the pings that were sent, newest first.  At the end stands the
text that was taken for a ping before there was one. -/
def published (origin : String) (world : MonitorWorld η ρ α) : List String :=
  (origin :: world.rest.pings).reverse

/-- Whether a message is an echo of one of the last two pings by a heart. -/
def Counts (origin : String) (world : MonitorWorld η ρ α) (message : Message) (heart : String) :
    Prop :=
  ∃ ping ∈ (published origin world).take 2, message.isEcho heart ping = true

/-- Whether a heart has sent an echo that counted, with so many beats since. -/
def Answered (run : η → String → MonitorWorld η ρ α → MonitorWorld η ρ α) (again : α)
    (start : MonitorWorld η ρ α) (history : List Event) (heart : String) (beats : Nat) : Prop :=
  ∃ past message future, history = past ++ .pong message :: future ∧
    Counts start.rest.monitor.currentPing (course run again start past) message heart ∧
    future.countP Event.isBeat = beats

variable {run : η → String → MonitorWorld η ρ α → MonitorWorld η ρ α} {again : α}
  {start world after : MonitorWorld η ρ α} {history : List Event} {event : Event}
  {message : Message} {heart origin : String} {beats : Nat}

theorem monitor_pong (message : Message) :
    (react run again world (.pong message)).rest.monitor =
      world.rest.monitor.handlePong message := rfl

/-- The monitor has the texts of the last two pings. -/
structure Remembers (origin : String) (world : MonitorWorld η ρ α) : Prop where
  last : (published origin world).head? = some world.rest.monitor.currentPing
  recent : ∀ text, text ∈ (published origin world).take 2 ↔
    world.rest.monitor.clock.isFresh text = true

theorem Begins.remembers (begins : Begins world) :
    Remembers world.rest.monitor.currentPing world := by
  constructor
  · simp [published, begins.pings]
  · simp [published, begins.pings, PingClock.isFresh_iff, begins.previous, Monitor.currentPing]

theorem published_of_beats (origin : String) (beats : Beats world after) :
    published origin after = after.rest.monitor.currentPing :: published origin world := by
  simp [published, beats.pings]

theorem Remembers.beat (remembers : Remembers origin world) (beats : Beats world after) :
    Remembers origin after := by
  rcases List.head?_eq_some_iff.mp remembers.last with ⟨older, pings⟩
  have later := published_of_beats origin beats
  constructor
  · rw [later]
    rfl
  · intro text
    rw [later, pings, Monitor.currentPing, beats.pingClock, PingClock.isFresh_tick]
    simp [PingClock.text, PingClock.tick, Monitor.currentPing]

theorem Remembers.pong (remembers : Remembers origin world) (message : Message) :
    Remembers origin (react run again world (.pong message)) := by
  have clock := Monitor.clock_handlePong world.rest.monitor message
  constructor
  · refine remembers.last.trans ?_
    rw [Monitor.currentPing, ← clock]
    rfl
  · intro text
    refine (remembers.recent text).trans ?_
    rw [← clock]
    rfl

theorem remembers_course (modest : Modest run) (again : α) (begins : Begins start)
    (history : List Event) :
    Remembers start.rest.monitor.currentPing (course run again start history) := by
  induction history using List.reverseRecOn with
  | nil => exact begins.remembers
  | append_singleton history event inductionHypothesis =>
      rw [course_concat]
      cases event with
      | pong message => exact inductionHypothesis.pong message
      | beat wait =>
          have remembers : Remembers _ ((course run again start history).elapse wait) :=
            ⟨inductionHypothesis.last, inductionHypothesis.recent⟩
          exact remembers.beat (beats_beat modest again _)

theorem handlePong_of_counts (remembers : Remembers origin world)
    (counts : Counts origin world message heart) :
    world.rest.monitor.handlePong message =
      { world.rest.monitor with
        liveness := world.rest.monitor.liveness.record heart
        echoes := world.rest.monitor.echoes + 1 } := by
  rcases counts with ⟨ping, recent, echo⟩
  exact Monitor.handlePong_of_fresh echo ((remembers.recent ping).mp recent)

theorem handlePong_of_ignored (remembers : Remembers origin world)
    (ignored : ∀ heart, ¬ Counts origin world message heart) :
    world.rest.monitor.handlePong message = world.rest.monitor := by
  apply Monitor.handlePong_of_stale
  intro heart ping echo
  refine Bool.eq_false_iff.mpr fun fresh => ?_
  exact ignored heart ⟨ping, (remembers.recent ping).mpr fresh, echo⟩

/-- A message is the echo of one heart at most. -/
theorem Counts.heart_eq {other : String} (counts : Counts origin world message heart)
    (others : Counts origin world message other) : heart = other := by
  rcases counts with ⟨_, _, echo⟩
  rcases others with ⟨_, _, otherEcho⟩
  have named := (Message.isEcho_iff.mp echo).1
  rw [(Message.isEcho_iff.mp otherEcho).1] at named
  exact (Except.ok.inj named).symm

/-! ## Distinct pings -/

/-- The pings that were sent carry times that are a microsecond apart at least,
the time that was taken for one before there was any included. -/
structure Paced (start world : MonitorWorld η ρ α) (times : List Instant) : Prop where
  stamps : start.rest.monitor.currentPing :: world.rest.pings =
    times.map start.rest.monitor.clock.text
  apart : times.Pairwise start.rest.monitor.clock.Apart
  within : ∀ time ∈ times, start.rest.monitor.clock.current ≤ time ∧
    time ≤ world.rest.monitor.clock.current
  resolution : world.rest.monitor.clock.resolution = start.rest.monitor.clock.resolution

theorem Begins.paced (begins : Begins start) :
    Paced start start [start.rest.monitor.clock.current] where
  stamps := by rw [begins.pings]; rfl
  apart := List.pairwise_singleton _ _
  within time member := by
    rw [List.mem_singleton.mp member]
    exact ⟨Int.le_refl _, Int.le_refl _⟩
  resolution := rfl

theorem Paced.pong {times : List Instant} (paced : Paced start world times) (message : Message) :
    Paced start (react run again world (.pong message)) times := by
  have clock : (react run again world (.pong message)).rest.monitor.clock =
      world.rest.monitor.clock :=
    Monitor.clock_handlePong world.rest.monitor message
  constructor
  case stamps => exact paced.stamps
  case apart => exact paced.apart
  case within => rw [clock]; exact paced.within
  case resolution => rw [clock]; exact paced.resolution

theorem Paced.beat {times : List Instant} (paced : Paced start world times)
    (passed : start.rest.monitor.clock.Apart world.rest.monitor.clock.moved world.now)
    (beats : Beats world after) :
    Paced start after (times ++ [after.rest.monitor.clock.current]) := by
  have resolution : after.rest.monitor.clock.resolution = start.rest.monitor.clock.resolution := by
    rw [beats.pingClock]
    exact paced.resolution
  have moves : start.rest.monitor.clock.Apart world.rest.monitor.clock.current
      after.rest.monitor.clock.current := by
    rw [← PingClock.apart_congr paced.resolution] at passed ⊢
    rw [beats.pingClock]
    exact PingClock.apart_tick passed
  have on : world.rest.monitor.clock.current ≤ after.rest.monitor.clock.current :=
    Int.le_trans (Int.le_add_of_nonneg_right (Int.natCast_nonneg _)) moves
  have began : start.rest.monitor.clock.current ≤ world.rest.monitor.clock.current := by
    have first := paced.stamps
    cases times with
    | nil => contradiction
    | cons time times =>
        have bounds := paced.within time List.mem_cons_self
        exact Int.le_trans bounds.1 bounds.2
  constructor
  case stamps =>
    rw [beats.pings, List.map_append, ← paced.stamps, ← PingClock.text_congr resolution]
    rfl
  case apart =>
    refine List.pairwise_append.mpr ⟨paced.apart, List.pairwise_singleton _ _, ?_⟩
    intro time member next last
    rw [List.mem_singleton.mp last]
    exact Int.le_trans (Int.add_le_add_right (paced.within time member).2 _) moves
  case within =>
    intro time member
    rcases List.mem_append.mp member with earlier | last
    · exact ⟨(paced.within time earlier).1, Int.le_trans (paced.within time earlier).2 on⟩
    · rw [List.mem_singleton.mp last]
      exact ⟨Int.le_trans began on, Int.le_refl _⟩
  case resolution => exact resolution

/-- The pings keep apart if the instants of the beats do, counted from that in
which the clock has moved last. -/
theorem paced_course (modest : Modest run) (again : α) {times : List Instant}
    (paced : Paced start world times)
    (spaced : (world.rest.monitor.clock.moved :: beatTimes run again world history).IsChain
      start.rest.monitor.clock.Apart) :
    ∃ times, Paced start (course run again world history) times := by
  induction history generalizing world times with
  | nil => exact ⟨times, paced⟩
  | cons event history inductionHypothesis =>
      cases event with
      | pong message =>
          apply inductionHypothesis (paced.pong message)
          rwa [monitor_pong, Monitor.clock_handlePong]
      | beat wait =>
          rcases List.isChain_cons_cons.mp spaced with ⟨passed, later⟩
          have beats := beats_beat modest again (world.elapse wait)
          have waited : Paced start (world.elapse wait) times :=
            ⟨paced.stamps, paced.apart, paced.within, paced.resolution⟩
          apply inductionHypothesis (waited.beat passed beats)
          rwa [beats.pingClock]

/-- Pings that are sent in the calendar have different texts. -/
theorem nodup_pings {times : List Instant} (paced : Paced start world times)
    (dated : start.rest.monitor.clock.IsDated) (still : world.rest.monitor.clock.IsDated) :
    (start.rest.monitor.currentPing :: world.rest.pings).Nodup := by
  have positive := Int.ofNat_lt.mpr start.rest.monitor.clock.resolution_pos
  rw [PingClock.IsDated, paced.resolution] at still
  have calendar : ∀ time ∈ times,
      Instant.IsDated (time / start.rest.monitor.clock.resolution) := fun time member =>
    dated.between still (Int.ediv_le_ediv positive (paced.within time member).1)
      (Int.ediv_le_ediv positive (paced.within time member).2)
  rw [paced.stamps, List.Nodup, List.pairwise_map]
  apply paced.apart.imp_of_mem
  intro time next member otherMember apart
  exact PingClock.text_ne_of_apart (calendar time member) (calendar next otherMember) apart

/-- An echo of an older ping than the last two counts for nobody. -/
theorem ignored_of_older (distinct : (published origin world).Nodup) {ping : String}
    (older : ping ∈ (published origin world).drop 2) (echo : message.isEcho heart ping = true)
    (other : String) : ¬ Counts origin world message other := by
  rintro ⟨text, recent, otherEcho⟩
  have same := (Message.isEcho_iff.mp echo).2
  rw [(Message.isEcho_iff.mp otherEcho).2] at same
  cases Except.ok.inj same
  rw [← List.take_append_drop 2 (published origin world)] at distinct
  exact (List.nodup_append.mp distinct).2.2 _ recent _ older rfl

/-- An answer is one that came before, or the last event. -/
theorem answered_concat :
    Answered run again start (history ++ [event]) heart beats ↔
      (∃ before, Answered run again start history heart before ∧
        beats = before + event.isBeat.toNat) ∨
      (∃ message, event = .pong message ∧ beats = 0 ∧
        Counts start.rest.monitor.currentPing (course run again start history) message heart) := by
  constructor
  · rintro ⟨past, message, future, whole, counts, total⟩
    rcases List.eq_nil_or_concat future with rfl | ⟨front, last, rfl⟩
    · rcases List.append_inj' whole rfl with ⟨rfl, same⟩
      cases List.singleton_inj.mp same
      exact Or.inr ⟨message, rfl, total.symm, counts⟩
    · rw [List.concat_eq_append, ← List.cons_append, ← List.append_assoc] at whole
      rcases List.append_inj' whole rfl with ⟨rfl, same⟩
      cases List.singleton_inj.mp same
      refine Or.inl ⟨_, ⟨past, message, front, rfl, counts, rfl⟩, ?_⟩
      rw [← total]
      cases event <;> simp [Event.isBeat]
  · rintro (⟨before, ⟨past, message, future, rfl, counts, rfl⟩, rfl⟩ | ⟨message, rfl, rfl, counts⟩)
    · refine ⟨past, message, future ++ [event], by simp, counts, ?_⟩
      cases event <;> simp [Event.isBeat]
    · exact ⟨history, message, [], rfl, counts, rfl⟩

theorem answered_pong :
    Answered run again start (history ++ [.pong message]) heart beats ↔
      Answered run again start history heart beats ∨
        (beats = 0 ∧ Counts start.rest.monitor.currentPing (course run again start history) message
          heart) := by
  rw [answered_concat]
  simp [Event.isBeat]

theorem answered_beat {wait : Duration} :
    Answered run again start (history ++ [.beat wait]) heart beats ↔
      ∃ before, beats = before + 1 ∧ Answered run again start history heart before := by
  rw [answered_concat]
  simp [Event.isBeat, and_comm]

theorem not_answered_nil : ¬ Answered run again start [] heart beats := by
  rintro ⟨past, message, future, whole, _⟩
  simp at whole

theorem reflects_course (modest : Modest run) (again : α) (begins : Begins start)
    (history : List Event) (heart : String) :
    (course run again start history).rest.monitor.liveness.Reflects heart
      (Answered run again start history heart 0) (Answered run again start history heart 1)
      (Answered run again start history heart 2) := by
  induction history using List.reverseRecOn with
  | nil =>
      have empty := Liveness.reflects_empty heart
      rw [← begins.liveness] at empty
      exact empty.congr (iff_of_false id not_answered_nil) (iff_of_false id not_answered_nil)
        (iff_of_false id not_answered_nil)
  | append_singleton history event inductionHypothesis =>
      rw [course_concat]
      cases event with
      | pong message =>
          have remembers := remembers_course modest again begins history
          rw [monitor_pong]
          by_cases counted : ∃ sender, Counts start.rest.monitor.currentPing
              (course run again start history) message sender
          · rcases counted with ⟨sender, counts⟩
            rw [handlePong_of_counts remembers counts]
            refine (inductionHypothesis.record sender).congr ?_ ?_ ?_
            · rw [answered_pong]
              apply or_congr_right
              constructor
              · rintro rfl
                exact ⟨rfl, counts⟩
              · exact fun both => counts.heart_eq both.2
            · simp [answered_pong]
            · simp [answered_pong]
          · have ignored := not_exists.mp counted
            rw [handlePong_of_ignored remembers ignored]
            refine inductionHypothesis.congr ?_ ?_ ?_ <;> simp [answered_pong, ignored]
      | beat wait =>
          have beats := beats_beat modest again ((course run again start history).elapse wait)
          rw [react, beats.liveness]
          refine inductionHypothesis.closeRound.congr ?_ ?_ ?_ <;> simp [answered_beat]

/-! ## The judgement -/

/-- What a monitor makes of the messages that it was sent. -/
structure Judges (run : η → String → MonitorWorld η ρ α → MonitorWorld η ρ α) (again : α)
    (start : MonitorWorld η ρ α) (history : List Event) : Prop where
  distinct : (published start.rest.monitor.currentPing (course run again start history)).Nodup
  counted : ∀ message heart,
    Counts start.rest.monitor.currentPing (course run again start history) message heart →
    (course run again start history).rest.monitor.handlePong message =
      { (course run again start history).rest.monitor with
        liveness := (course run again start history).rest.monitor.liveness.record heart
        echoes := (course run again start history).rest.monitor.echoes + 1 }
  ignored : ∀ message,
    (∀ heart, ¬ Counts start.rest.monitor.currentPing (course run again start history) message heart) →
    (course run again start history).rest.monitor.handlePong message =
      (course run again start history).rest.monitor
  /-- An echo of an older ping changes nothing. -/
  stale : ∀ message heart ping,
    ping ∈ (published start.rest.monitor.currentPing (course run again start history)).drop 2 →
    message.isEcho heart ping = true →
    (course run again start history).rest.monitor.handlePong message =
      (course run again start history).rest.monitor
  /-- A heart is alive if an echo of it counted that came before the last beat, and
  with one beat since at most before that one. -/
  alive : ∀ heart, (course run again start history).rest.monitor.isAlive heart = true ↔
    Answered run again start history heart 1 ∨ Answered run again start history heart 2
  /-- A beat fails a heart that is alive if no echo of it counted in the round that
  the beat closes, nor in the one before. -/
  failing : ∀ heart now,
    heart ∈ ((course run again start history).rest.monitor.roll now).1.failures ↔
      (course run again start history).rest.monitor.isAlive heart = true ∧
        ¬ Answered run again start history heart 0 ∧ ¬ Answered run again start history heart 1

/-- Only fresh echoes count, if the first beat is a microsecond at least after the
monitor was set up, and each further one after that before it, and the pings are
still in the calendar. -/
theorem judges_of_spaced (modest : Modest run) (begins : Begins start)
    (spaced : (start.now :: beatTimes run again start history).IsChain
      start.rest.monitor.clock.Apart)
    (dated : start.rest.monitor.clock.IsDated)
    (still : (course run again start history).rest.monitor.clock.IsDated) :
    Judges run again start history := by
  rw [← begins.moved] at spaced
  rcases paced_course modest again begins.paced spaced with ⟨times, paced⟩
  have distinct : (published start.rest.monitor.currentPing (course run again start history)).Nodup :=
    List.pairwise_reverse.mpr ((nodup_pings paced dated still).imp Ne.symm)
  have remembers := remembers_course modest again begins history
  have reflects := reflects_course modest again begins history
  have alive : ∀ heart, (course run again start history).rest.monitor.isAlive heart = true ↔
      Answered run again start history heart 1 ∨ Answered run again start history heart 2 :=
    fun heart => Std.ExtTreeSet.contains_iff_mem.trans (reflects heart).alive
  constructor
  case distinct => exact distinct
  case counted => exact fun message heart counts => handlePong_of_counts remembers counts
  case ignored => exact fun message ignored => handlePong_of_ignored remembers ignored
  case stale =>
    intro message heart ping older echo
    exact handlePong_of_ignored remembers (ignored_of_older distinct older echo)
  case alive => exact alive
  case failing =>
    intro heart now
    rw [alive]
    refine (Liveness.mem_failures_closeRound.trans (reflects heart).mem_failing).trans ?_
    constructor
    · rintro ⟨earlier, missed, silent⟩
      exact ⟨Or.inr earlier, silent, missed⟩
    · rintro ⟨answered, silent, missed⟩
      exact ⟨answered.resolve_left missed, missed, silent⟩

/-- A clock of nanoseconds is read for the beats, and the time of the pings begins
in the middle of a microsecond.  Each beat is 1999 ns after the one before, and the
pings carry times that are 1 µs apart.  A heart answers the ping that the monitor was
set up with, and repeats that answer after two beats.  It is still alive, but the next
beat fails it. -/
theorem judges_of_spaced_of_repetition :
    let run : Unit → String → MonitorWorld Unit Unit Unit → MonitorWorld Unit Unit Unit :=
      fun _ _ world => world
    let clock : PingClock := {
      resolution := 1000, resolution_pos := by decide
      current := 1700, previous := 1700, moved := 0 }
    let start : MonitorWorld Unit Unit Unit :=
      ⟨0, {}, { monitor := { interval := 1999, clock }, owner := () }⟩
    let echo := (Message.empty.pushText "heart").pushText (Monitor.stamp 1)
    let history : List Event := [.pong echo, .beat 1999, .beat 1999, .pong echo]
    Modest run ∧ Begins start ∧
      (start.now :: beatTimes run () start history).IsChain start.rest.monitor.clock.Apart ∧
      start.rest.monitor.clock.IsDated ∧
      (course run () start history).rest.monitor.clock.IsDated ∧
      (course run () start history).rest.pings = [Monitor.stamp 2, Monitor.stamp 3] ∧
      (course run () start history).rest.monitor.isAlive "heart" = true ∧
      ((course run () start history).rest.monitor.roll 5997).1.failures = ["heart"] ∧
      Judges run () start history := by
  intro run clock start echo history
  have modest : Modest run := fun _ _ world => .refl world
  have begins : Begins start := ⟨rfl, rfl, rfl, rfl⟩
  have spaced : (start.now :: beatTimes run () start history).IsChain
      start.rest.monitor.clock.Apart := by
    decide +kernel
  have dated : start.rest.monitor.clock.IsDated := by decide +kernel
  have still : (course run () start history).rest.monitor.clock.IsDated := by decide +kernel
  have pings : (course run () start history).rest.pings = [Monitor.stamp 2, Monitor.stamp 3] := by
    decide +kernel
  have alive : (course run () start history).rest.monitor.isAlive "heart" = true := by
    decide +kernel
  have fails : ((course run () start history).rest.monitor.roll 5997).1.failures = ["heart"] := by
    decide +kernel
  exact ⟨modest, begins, spaced, dated, still, pings, alive, fails,
    judges_of_spaced modest begins spaced dated still⟩

end ClusterHub.MonitorWorld
