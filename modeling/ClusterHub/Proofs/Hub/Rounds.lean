import ClusterHub.Proofs.Heart.Echo
import ClusterHub.Proofs.Hub.Recovery
import ClusterHub.Proofs.Hub.Timely

/-!
# Rounds

A round goes from one beat to the next.  The timer of the next beat is set when
a round begins, for one interval later, and nothing cancels it.  An echo of the
ping with which a round began is remembered until the round is closed; then its
heart is reported as new unless it was alive.
-/

namespace ClusterHub

namespace Core

variable {r middle after : Core}

theorem Step.interval_eq (step : r.Step after) : after.monitor.interval = r.monitor.interval := by
  cases step with
  | handled handled => rw [handled.monitor_eq]
  | fired position entry stands fired => rw [fired.monitor_eq]
  | pulse pulse =>
      cases pulse with
      | heard message => exact Monitor.interval_handlePong r.monitor message
      | _ => rfl

theorem Steps.interval_eq (steps : Steps r after) :
    after.monitor.interval = r.monitor.interval := by
  induction steps with
  | refl => rfl
  | tail _ last inductionHypothesis => exact last.interval_eq.trans inductionHypothesis

/-- Every timer of a beat that runs after a change ran before. -/
def SetsNoBeat (r after : Core) : Prop :=
  ∀ entry ∈ after.timers.running, entry.action = .own .beat → entry ∈ r.timers.running

theorem SetsNoBeat.refl (r : Core) : r.SetsNoBeat r :=
  fun _ running _ => running

theorem SetsNoBeat.trans (left : r.SetsNoBeat middle) (right : middle.SetsNoBeat after) :
    r.SetsNoBeat after :=
  fun entry running due => left entry (right entry running due) due

theorem setsNoBeat_schedule {deadline : Instant} {duty : Duty} (other : duty ≠ .beat) :
    r.SetsNoBeat (r.schedule deadline duty) := by
  intro entry running due
  rcases Timers.mem_running_scheduleAt.mp running with rfl | before
  · cases due
    exact absurd rfl other
  · exact before

theorem setsNoBeat_disarm (handle : Option TimerHandle) : r.SetsNoBeat (r.disarm handle) :=
  fun _ running _ => (Timers.mem_running_disarm.mp running).1

theorem setsNoBeat_dropTimer (position : Nat) : r.SetsNoBeat (r.dropTimer position) := by
  intro entry running _
  rcases Timers.mem_running.mp running with ⟨member, active⟩
  exact Timers.mem_running.mpr ⟨List.mem_of_mem_eraseIdx member, active⟩

theorem Handled.setsNoBeat (handled : r.Handled after) : r.SetsNoBeat after := by
  cases handled with
  | noted after noted =>
      rcases noted with ⟨operations, _, rfl⟩
      exact .refl r
  | stopping deadline => exact setsNoBeat_schedule nofun
  | joined => exact .refl r
  | waiting => exact setsNoBeat_schedule nofun
  | left => exact setsNoBeat_disarm _

theorem Fired.setsNoBeat {position : Nat} {entry : TimerEntry (Reactor.Alarm Duty)}
    (fired : r.Fired position entry after) : r.SetsNoBeat after := by
  have dropped := setsNoBeat_dropTimer (r := r) position
  cases fired with
  | purged => exact dropped.trans (setsNoBeat_disarm _)
  | swept => exact dropped.trans (setsNoBeat_disarm _)
  | _ => exact dropped

/-- Amid a beat no other one is set. -/
theorem Pulse.setsNoBeat (pulse : Pulse r after) (amid : r.arriving ≠ [] ∨ r.failing ≠ []) :
    r.SetsNoBeat after := by
  cases pulse with
  | rolled now deadline arrived failed =>
      rcases amid with arriving | failing
      · exact absurd arrived arriving
      · exact absurd failed failing
  | welcomed => exact setsNoBeat_disarm _
  | gaveUp => exact setsNoBeat_schedule nofun
  | _ => exact .refl r

/-- What an event can do between beats. -/
inductive Between (r : Core) : Core → Prop
  | idle : Between r r
  | handled (after : Core) (handled : r.Handled after) : Between r after
  | fired (position : Nat) (entry : TimerEntry (Reactor.Alarm Duty)) (after : Core)
      (fired : r.Fired position entry after) : Between r after
  | heard (message : Message) : Between r { r with monitor := r.monitor.handlePong message }

theorem Between.setsNoBeat (between : r.Between after) : r.SetsNoBeat after := by
  cases between with
  | idle => exact .refl r
  | handled after handled => exact handled.setsNoBeat
  | fired position entry after fired => exact fired.setsNoBeat
  | heard message => exact .refl r

/-- Between beats a monitor only takes in echoes. -/
theorem Between.monitor_eq (between : r.Between after) :
    after.monitor = r.monitor ∨ ∃ message, after.monitor = r.monitor.handlePong message := by
  cases between with
  | idle => exact Or.inl rfl
  | handled after handled => exact Or.inl handled.monitor_eq
  | fired position entry after fired => exact Or.inl fired.monitor_eq
  | heard message => exact Or.inr ⟨message, rfl⟩

end Core

namespace Hub

variable {hub : Hub} {event : Event} {history : List Event} {heart : String} {limit : Instant}

/-- Whether a beat is made, computed. -/
def makesBeat (hub : Hub) : Event → Bool
  | .beat => true
  | .timer position =>
      (hub.timers.entries[position]?).any fun entry => entry.active && entry.action = .own .beat
  | _ => false

theorem beats_iff : hub.beats event ↔ hub.makesBeat event := by
  unfold beats
  cases event <;> simp [makesBeat, Option.any_eq_true]

theorem makesBeat_eq_false (unbeaten : ¬ hub.beats event) : hub.makesBeat event = false := by
  rw [← Bool.not_eq_true, ← beats_iff]
  exact unbeaten

/-- Queries make no beats. -/
theorem not_beats_query (hub : Hub) (message : Message) : ¬ hub.beats (.query message) := by
  rw [beats_iff]
  exact Bool.false_ne_true

instance (hub : Hub) (event : Event) : Decidable (hub.beats event) :=
  decidable_of_iff' _ beats_iff

/-- The hearts that a beat reports as new are those that have answered and are not
alive. -/
theorem mem_newHearts : heart ∈ hub.newHearts ↔
    heart ∈ hub.monitor.liveness.responded ∧ heart ∉ hub.core.alive := by
  have listed : hub.newHearts = hub.monitor.liveness.arriving.toList := rfl
  rw [listed, Std.ExtTreeSet.mem_toList, Liveness.mem_arriving]
  rfl

theorem between_react (orderly : hub.Orderly) (room : hub.HasRoom event)
    (unbeaten : ¬ hub.beats event) : hub.core.Between (hub.react event).core := by
  cases event with
  | query message => exact .handled _ (handled_dispatchQuery orderly.consistent room)
  | traffic message => exact .handled _ (.noted _ (noted_dispatchTraffic hub message))
  | pong message => exact .heard message
  | beat => exact absurd (Or.inl rfl) unbeaten
  | elapse d => exact .idle
  | flush => exact .idle
  | timer position =>
      change hub.core.Between (hub.fire position).core
      cases stands : hub.timers.entries[position]? with
      | none =>
          rw [fire_of_none stands]
          exact .idle
      | some entry =>
          rcases fired_fire orderly.consistent stands with fired | ⟨active, due⟩
          · exact .fired position entry _ fired
          · exact absurd (Or.inr ⟨position, entry, rfl, stands, active, due⟩) unbeaten

theorem currentPing_react_of_unbeaten (orderly : hub.Orderly) (room : hub.HasRoom event)
    (unbeaten : ¬ hub.beats event) :
    (hub.react event).monitor.currentPing = hub.monitor.currentPing := by
  change (hub.react event).core.monitor.currentPing = _
  unfold Monitor.currentPing
  rcases (between_react orderly room unbeaten).monitor_eq with same | ⟨message, same⟩
  · rw [same]
    rfl
  · rw [same, Monitor.clock_handlePong]
    rfl

theorem responded_react_of_unbeaten (orderly : hub.Orderly) (room : hub.HasRoom event)
    (unbeaten : ¬ hub.beats event) (responded : heart ∈ hub.monitor.liveness.responded) :
    heart ∈ (hub.react event).monitor.liveness.responded := by
  change heart ∈ (hub.react event).core.monitor.liveness.responded
  rcases (between_react orderly room unbeaten).monitor_eq with same | ⟨message, same⟩
  · rw [same]
    exact responded
  · rw [same]
    exact Monitor.responded_handlePong responded

theorem interval_run (orderly : hub.Orderly) (enough : hub.HasRoomFor history) :
    (hub.run history).monitor.interval = hub.monitor.interval :=
  (steps_run orderly enough).interval_eq

theorem setsNoBeat_welcomeAll (consistent : hub.registry.Consistent) (hearts : List String) :
    hub.core.SetsNoBeat (hearts.foldl welcomeHeart hub).core := by
  induction hearts generalizing hub with
  | nil => exact .refl _
  | cons heart rest inductionHypothesis =>
      have first : Core.Pulse (hub.amid (heart :: rest) []) _ :=
        pulse_welcomeHeart consistent rest []
      have later := inductionHypothesis (first.consistent consistent)
      exact (first.setsNoBeat (Or.inl (List.cons_ne_nil heart rest))).trans later

theorem setsNoBeat_loseAll (consistent : hub.registry.Consistent) (hearts : List String) :
    hub.core.SetsNoBeat (hearts.foldl loseHeart hub).core := by
  induction hearts generalizing hub with
  | nil => exact .refl _
  | cons heart rest inductionHypothesis =>
      have first : Core.Pulse (hub.amid [] (heart :: rest)) _ :=
        pulse_loseHeart consistent [] rest
      have later := inductionHypothesis (first.consistent consistent)
      exact (first.setsNoBeat (Or.inr (List.cons_ne_nil heart rest))).trans later

/-- A beat sets one beat. -/
theorem setsNoBeat_rolled (orderly : hub.Orderly) : hub.rolled.core.SetsNoBeat hub.beat.core := by
  have opened := (pulse_rolled hub).consistent orderly.consistent
  have welcoming := pulses_welcomeAll opened hub.newHearts hub.failures
  have losing := setsNoBeat_loseAll (welcoming.consistent opened) hub.failures
  rw [beat_eq orderly.attentive]
  exact (setsNoBeat_welcomeAll opened hub.newHearts).trans losing

/-- Whether no two timers of beats run. -/
def BeatsOnce (hub : Hub) : Prop :=
  ∀ entry ∈ hub.timers.running, ∀ other ∈ hub.timers.running,
    entry.action = .own .beat → other.action = .own .beat → entry = other

/-- The timer that a beat sets is the only one of a beat that runs then. -/
theorem BeatsOnce.eq_of_beats {entry : TimerEntry (Reactor.Alarm Duty)} (once : hub.BeatsOnce)
    (orderly : hub.Orderly) (allowed : hub.allows event) (beaten : hub.beats event)
    (running : entry ∈ (hub.react event).timers.running) (due : entry.action = .own .beat) :
    entry = ⟨hub.now + hub.monitor.interval, hub.timers.issued + 1, true, .own .beat⟩ := by
  rcases beaten with rfl | ⟨position, first, rfl, stands, active, beat⟩
  · contradiction
  · have fired : (hub.react (.timer position)) = (hub.dropTimer position).beat :=
      fire_of_beat stands active beat
    rw [fired] at running
    have set := setsNoBeat_rolled (orderly.dropTimer stands beat) entry running due
    rcases Timers.mem_running_scheduleAt.mp set with new | old
    · exact new
    · rcases (orderly.coherent.ticketed.mem_running_dropAt stands).mp old with ⟨before, different⟩
      have there := Timers.mem_running.mpr ⟨List.mem_of_getElem? stands, active⟩
      exact absurd (congrArg TimerEntry.ticket (once entry before first there due beat)) different

theorem BeatsOnce.react (once : hub.BeatsOnce) (orderly : hub.Orderly) (room : hub.HasRoom event)
    (allowed : hub.allows event) : (hub.react event).BeatsOnce := by
  intro entry running other otherRunning due otherDue
  by_cases beaten : hub.beats event
  · rw [once.eq_of_beats orderly allowed beaten running due,
      once.eq_of_beats orderly allowed beaten otherRunning otherDue]
  · have unset := (between_react orderly room beaten).setsNoBeat
    exact once entry (unset entry running due) other (unset other otherRunning otherDue) due
      otherDue

theorem beatsOnce_run (once : hub.BeatsOnce) (orderly : hub.Orderly)
    (enough : hub.HasRoomFor history) (timely : hub.isTimely history) :
    (hub.run history).BeatsOnce := by
  induction history generalizing hub with
  | nil => exact once
  | cons event history inductionHypothesis =>
      rcases isTimely_cons.mp timely with ⟨allowed, later⟩
      exact inductionHypothesis (once.react orderly enough.head allowed)
        (orderly_react orderly enough.head) (enough.tail orderly) later

theorem IsAttached.beatsOnce (attached : hub.IsAttached) : hub.BeatsOnce := by
  rcases attached with ⟨config, engineAddresses, clientAddresses, now, rfl⟩
  intro entry running other otherRunning _ _
  rcases Timers.mem_running_scheduleAt.mp running with rfl | never
  · rcases Timers.mem_running_scheduleAt.mp otherRunning with rfl | never
    · rfl
    · contradiction
  · contradiction

/-- Whether the timer of the next beat runs, and is due by a given instant. -/
def beatsBy (hub : Hub) (limit : Instant) : Prop :=
  ∃ entry ∈ hub.timers.running, entry.action = .own .beat ∧ entry.deadline ≤ limit

instance (hub : Hub) (limit : Instant) : Decidable (hub.beatsBy limit) :=
  inferInstanceAs (Decidable (∃ entry, entry ∈ hub.timers.running ∧ _ ∧ _))

theorem beatsBy.mono {later : Instant} (next : hub.beatsBy limit) (le : limit ≤ later) :
    hub.beatsBy later := by
  rcases next with ⟨entry, running, due, early⟩
  exact ⟨entry, running, due, Int.le_trans early le⟩

/-- The next beat is not overdue. -/
theorem beatsBy.now_le (next : hub.beatsBy limit) (punctual : hub.Punctual) : hub.now ≤ limit := by
  rcases next with ⟨entry, running, _, early⟩
  exact Int.le_trans (punctual.ahead entry (Timers.mem_running.mp running).1) early

theorem not_fires_of_unbeaten {entry : TimerEntry (Reactor.Alarm Duty)} (orderly : hub.Orderly)
    (running : entry ∈ hub.timers.running) (due : entry.action = .own .beat)
    (unbeaten : ¬ hub.beats event) : ¬ hub.fires entry.ticket event := by
  rintro ⟨position, other, rfl, stands, active, same⟩
  have equal := orderly.coherent.ticketed.eq_of_mem (List.mem_of_getElem? stands)
    (Timers.mem_running.mp running).1 same
  subst equal
  exact unbeaten (Or.inr ⟨position, other, rfl, stands, active, due⟩)

/-- Until it comes, the next beat stays set. -/
theorem beatsBy.react_of_unbeaten (next : hub.beatsBy limit) (orderly : hub.Orderly)
    (room : hub.HasRoom event) (unbeaten : ¬ hub.beats event) :
    (hub.react event).beatsBy limit := by
  rcases next with ⟨entry, running, due, early⟩
  have lasting : ∀ heart, entry.action ≠ .own (.purgeStalled heart) := by
    rw [due]
    exact nofun
  have unfired := not_fires_of_unbeaten orderly running due unbeaten
  exact ⟨entry, keeps_running_react orderly room running lasting unfired, due, early⟩

theorem beatsBy_beat (orderly : hub.Orderly) :
    hub.beat.beatsBy (hub.now + hub.monitor.interval) := by
  let entry : TimerEntry (Reactor.Alarm Duty) :=
    ⟨hub.now + hub.monitor.interval, hub.timers.issued + 1, true, .own .beat⟩
  have opening := pulse_rolled hub
  have set : entry ∈ (hub.rolled.amid hub.newHearts hub.failures).timers.running :=
    Timers.mem_running_scheduleAt.mpr (Or.inl rfl)
  have kept := (pulses_rolled orderly.attentive orderly.consistent).keeps_running
    (opening.coherent orderly.coherent) set nofun
  exact ⟨entry, kept, rfl, Int.le_refl _⟩

/-- A beat sets the next one. -/
theorem beatsBy_react_of_beats (orderly : hub.Orderly) (beaten : hub.beats event) :
    (hub.react event).beatsBy (hub.now + hub.monitor.interval) := by
  rcases beaten with rfl | ⟨position, entry, rfl, stands, active, due⟩
  · exact beatsBy_beat orderly
  · have next : (hub.dropTimer position).beat.beatsBy _ :=
      beatsBy_beat (orderly.dropTimer stands due)
    change (hub.fire position).beatsBy _
    rw [fire_of_beat stands active due]
    exact next

theorem now_le_react (hub : Hub) (event : Event) : hub.now ≤ (hub.react event).now := by
  by_cases instant : ∀ d, event ≠ .elapse d
  · exact Int.le_of_eq (meanwhile_react hub instant).now.symm
  · cases event with
    | elapse d => exact Int.le_add_of_nonneg_right (Int.natCast_nonneg d)
    | _ => exact absurd nofun instant

/-- There is a beat in every interval. -/
theorem beatsBy_run (orderly : hub.Orderly) (enough : hub.HasRoomFor history)
    (next : hub.beatsBy (hub.now + hub.monitor.interval)) :
    (hub.run history).beatsBy ((hub.run history).now + hub.monitor.interval) := by
  induction history generalizing hub with
  | nil => exact next
  | cons event history inductionHypothesis =>
      have same : (hub.react event).monitor.interval = hub.monitor.interval :=
        (steps_react orderly enough.head).interval_eq
      have later := Int.add_le_add_right (now_le_react hub event) hub.monitor.interval
      have set : (hub.react event).beatsBy ((hub.react event).now + hub.monitor.interval) := by
        by_cases beaten : hub.beats event
        · exact (beatsBy_react_of_beats orderly beaten).mono later
        · exact (next.react_of_unbeaten orderly enough.head beaten).mono later
      rw [run_cons, ← same]
      exact inductionHypothesis (orderly_react orderly enough.head) (enough.tail orderly)
        (same ▸ set)

theorem IsAttached.beatsBy (attached : hub.IsAttached) :
    hub.beatsBy (hub.now + hub.monitor.interval) := by
  rcases attached with ⟨config, engineAddresses, clientAddresses, now, rfl⟩
  exact ⟨_, Timers.mem_running_scheduleAt.mpr (Or.inl rfl), rfl, Int.le_refl _⟩

theorem IsAttached.interval_run (attached : hub.IsAttached) (enough : hub.HasRoomFor history) :
    (hub.run history).monitor.interval = (hub.run history).config.heartbeat := by
  rw [Hub.interval_run attached.orderly enough, config_run]
  rcases attached with ⟨config, engineAddresses, clientAddresses, now, rfl⟩
  rfl

/-! ## Hearts that keep up -/

/-- Whether an event is the echo of a ping by a heart. -/
def Event.isEcho (heart ping : String) : Event → Bool
  | .pong message => message.isEcho heart ping
  | _ => false

/-- Whether a heart echoes every ping that is published in a history before the
next beat is made.  The ping that it still owes an echo of is given, if there is
one. -/
def keepsUp (hub : Hub) (heart : String) (owed : Option String) : List Event → Bool
  | [] => true
  | event :: history =>
      if hub.beats event then
        owed.isNone &&
          (hub.react event).keepsUp heart (some (hub.react event).monitor.currentPing) history
      else
        (hub.react event).keepsUp heart (owed.filter fun ping => !event.isEcho heart ping) history

/-- Whether what a heart owes at most is an echo of the last ping. -/
def Owes (hub : Hub) (heart : String) (owed : Option String) : Prop :=
  heart ∈ hub.monitor.liveness.responded ∨ owed = some hub.monitor.currentPing

/-- Between beats a heart either pays or still owes the same. -/
theorem Owes.react_of_unbeaten {owed : Option String} (owes : hub.Owes heart owed)
    (orderly : hub.Orderly) (room : hub.HasRoom event) (unbeaten : ¬ hub.beats event) :
    (hub.react event).Owes heart (owed.filter fun ping => !event.isEcho heart ping) := by
  rcases owes with responded | rfl
  · exact Or.inl (responded_react_of_unbeaten orderly room unbeaten responded)
  · cases echo : event.isEcho heart hub.monitor.currentPing with
    | false =>
        right
        rw [currentPing_react_of_unbeaten orderly room unbeaten]
        simp [echo]
    | true =>
        left
        cases event with
        | pong message => exact Monitor.responded_of_isEcho echo
        | _ => contradiction

/-- Whether a heart has answered when the next beat of a history is made, if there
is one. -/
def answersInRound (hub : Hub) (heart : String) : List Event → Bool
  | [] => true
  | event :: history =>
      if hub.beats event then heart ∈ hub.monitor.liveness.responded
      else (hub.react event).answersInRound heart history

/-- A heart that keeps up and owes no more than the last echo pays in time. -/
theorem answersInRound_of_owes {owed : Option String} (orderly : hub.Orderly)
    (enough : hub.HasRoomFor history) (owes : hub.Owes heart owed)
    (keepsUp : hub.keepsUp heart owed history) : hub.answersInRound heart history := by
  induction history generalizing hub owed with
  | nil => rfl
  | cons event history inductionHypothesis =>
      rw [answersInRound]
      by_cases beaten : hub.beats event
      · rw [Hub.keepsUp, if_pos beaten, Bool.and_eq_true_iff] at keepsUp
        rw [if_pos beaten]
        rcases owes with responded | rfl
        · exact decide_eq_true responded
        · exact absurd keepsUp.1 Bool.false_ne_true
      · rw [Hub.keepsUp, if_neg beaten] at keepsUp
        rw [if_neg beaten]
        exact inductionHypothesis (orderly_react orderly enough.head) (enough.tail orderly)
          (owes.react_of_unbeaten orderly enough.head beaten) keepsUp

end Hub

end ClusterHub
