import ClusterHub.Proofs.Hub.Rounds
import ClusterHub.Proofs.Hub.Verdicts

/-!
# Engines whose timers come first

An engine that waits is withdrawn when its timer has its turn, unless a beat has
reported its heart by then.  Timers that are due in one instant have their turns
in the order in which they were set.  So a beat that is due together with the
engine's timer comes too late if its own timer was set later.
-/

namespace ClusterHub.Hub

variable {hub : Hub} {event : Event} {history : List Event} {id : EngineId}
  {record : EngineRecord} {handle : TimerHandle} {limit last : Instant}

/-- The record of an engine that waits, and the handle of its timer. -/
structure IsWaiting (hub : Hub) (id : EngineId) (record : EngineRecord) (handle : TimerHandle) :
    Prop where
  found : hub.registry.engines[id]? = some record
  pending : record.state = .pending
  armed : record.deletion = some handle

namespace IsWaiting

theorem waits (waiting : hub.IsWaiting id record handle) : hub.waits id :=
  ⟨record, waiting.found, waiting.pending⟩

theorem exists_running (waiting : hub.IsWaiting id record handle) (orderly : hub.Orderly) :
    ∃ entry ∈ hub.timers.running, entry.handle = handle := by
  rcases orderly.coherent.armed waiting.found waiting.pending with ⟨own, running, _, ownHandle⟩
  rw [waiting.armed] at ownHandle
  exact ⟨own, running, (Option.some.inj ownHandle).symm⟩

/-- The timer of an engine that waits is not overdue. -/
theorem now_le (waiting : hub.IsWaiting id record handle) (orderly : hub.Orderly)
    (punctual : hub.Punctual) : hub.now ≤ handle.deadline := by
  rcases waiting.exists_running orderly with ⟨own, running, rfl⟩
  exact punctual.ahead own (Timers.mem_running.mp running).1

/-- An engine goes on waiting if its heart is not reported and its timer does not
have its turn. -/
theorem react (waiting : hub.IsWaiting id record handle) (orderly : hub.Orderly)
    (room : hub.HasRoom event) (unreported : ¬ hub.reportsNew record.heart event)
    (unfired : ¬ hub.fires handle.ticket event) : (hub.react event).IsWaiting id record handle where
  found := found_react_of_neither orderly room waiting.found waiting.pending waiting.armed
    unreported unfired
  pending := waiting.pending
  armed := waiting.armed

/-- The timer of an engine makes no beat. -/
theorem not_fires_of_beats (waiting : hub.IsWaiting id record handle) (orderly : hub.Orderly)
    (beaten : hub.beats event) : ¬ hub.fires handle.ticket event := by
  rintro ⟨position, entry, rfl, stands, active, same⟩
  rcases beaten with never | ⟨place, other, turn, there, _, due⟩
  · contradiction
  · cases turn
    cases stands.symm.trans there
    have running := Timers.mem_running.mpr ⟨List.mem_of_getElem? stands, active⟩
    have unlike : entry.action ≠ .own (.purgeStalled record.heart) := by
      rw [due]
      exact nofun
    exact orderly.coherent.ticket_ne_of_pending waiting.found waiting.pending waiting.armed running
      unlike same

/-- The heart of an engine that waits is not alive, so that it is reported once it
has answered, and then the engine is active. -/
theorem hasActive_react (waiting : hub.IsWaiting id record handle) (orderly : hub.Orderly)
    (beaten : hub.beats event) (responded : record.heart ∈ hub.monitor.liveness.responded) :
    (hub.react event).hasActive id := by
  have silent : record.heart ∉ hub.core.alive := by
    intro alive
    have arriving := (orderly.coherent.waiting waiting.found waiting.pending).2 alive
    exact List.not_mem_nil arriving
  have reported : hub.reportsNew record.heart event :=
    ⟨beaten, mem_newHearts.mpr ⟨responded, silent⟩⟩
  exact ⟨_, found_react_of_reported orderly waiting.found waiting.pending reported, rfl⟩

end IsWaiting

/-- At any time of a history an engine waits, and not much time has gone by, or it
has gone. -/
def Lapses (hub : Hub) (id : EngineId) (last : Instant) (history : List Event) : Prop :=
  ∀ past, past <+: history → (hub.run past).waits id ∧ (hub.run past).now ≤ last ∨
    (hub.run past).registry.engines[id]? = none

theorem lapses_nil (waits : hub.waits id) (early : hub.now ≤ last) : hub.Lapses id last [] := by
  intro past earlier
  rw [List.prefix_nil.mp earlier]
  exact Or.inl ⟨waits, early⟩

theorem Lapses.cons (waits : hub.waits id) (early : hub.now ≤ last)
    (later : (hub.react event).Lapses id last history) : hub.Lapses id last (event :: history) := by
  intro past earlier
  cases past with
  | nil => exact Or.inl ⟨waits, early⟩
  | cons first rest =>
      rcases List.cons_prefix_cons.mp earlier with ⟨rfl, inHistory⟩
      exact later rest inHistory

theorem lapses_of_gone (orderly : hub.Orderly) (enough : hub.HasRoomFor history)
    (gone : hub.core.Gone id) : hub.Lapses id last history := by
  rintro past ⟨future, rfl⟩
  exact Or.inr (gone_run orderly enough.past gone).1

/-- When its timer has its turn an engine has gone for good. -/
theorem IsWaiting.lapses_of_fires (waiting : hub.IsWaiting id record handle)
    (orderly : hub.Orderly) (enough : hub.HasRoomFor (event :: history))
    (fired : hub.fires handle.ticket event) : (hub.react event).Lapses id last history := by
  have withdrawn := registry_react_of_fired orderly waiting.found waiting.pending waiting.armed
    fired
  exact lapses_of_gone (orderly_react orderly enough.head) (enough.tail orderly)
    (gone_of_withdraw orderly waiting.found withdrawn)

/-! ## Before the beat -/

/-- An engine waits, and its timer has its turn before any beat. -/
structure Outruns (hub : Hub) (id : EngineId) (record : EngineRecord) (handle : TimerHandle) :
    Prop extends hub.IsWaiting id record handle where
  before : ∀ entry ∈ hub.timers.running, entry.action = .own .beat → handle.Precedes entry.handle

/-- The first timer of the queue is not that of a beat then. -/
theorem Outruns.not_beats (outruns : hub.Outruns id record handle) (orderly : hub.Orderly)
    (punctual : hub.Punctual) (allowed : hub.allows event) : ¬ hub.beats event := by
  rintro (rfl | ⟨position, entry, rfl, stands, active, due⟩)
  · contradiction
  · obtain ⟨rfl, _⟩ := first_of_allows allowed stands
    have running := Timers.mem_running.mpr ⟨List.mem_of_getElem? stands, active⟩
    have later := outruns.before entry running due
    rcases outruns.exists_running orderly with ⟨own, ownRunning, rfl⟩
    rcases punctual.ordered.precedes_of_first stands (Timers.mem_running.mp ownRunning).1 with
      rfl | sooner
    · exact later.not_self
    · exact later.asymm sooner

theorem Outruns.lapses (outruns : hub.Outruns id record handle) (orderly : hub.Orderly)
    (enough : hub.HasRoomFor history) (punctual : hub.Punctual) (timely : hub.isTimely history)
    (le : handle.deadline ≤ last) : hub.Lapses id last history := by
  induction history generalizing hub with
  | nil =>
      exact lapses_nil outruns.waits (Int.le_trans (outruns.now_le orderly punctual) le)
  | cons event history inductionHypothesis =>
      rcases isTimely_cons.mp timely with ⟨allowed, later⟩
      have unbeaten := outruns.not_beats orderly punctual allowed
      apply Lapses.cons outruns.waits (Int.le_trans (outruns.now_le orderly punctual) le)
      by_cases fired : hub.fires handle.ticket event
      · exact outruns.lapses_of_fires orderly enough fired
      · have unreported : ¬ hub.reportsNew record.heart event :=
          fun reported => unbeaten reported.1
        have waiting := outruns.react orderly enough.head unreported fired
        have unset := (between_react orderly enough.head unbeaten).setsNoBeat
        have still : (hub.react event).Outruns id record handle :=
          ⟨waiting, fun entry running due => outruns.before entry (unset entry running due) due⟩
        exact inductionHypothesis still (orderly_react orderly enough.head) (enough.tail orderly)
          (punctual.react allowed) later

/-- An engine waits, the next beat is not due before a given instant, and its timer is
due within an interval after that. -/
structure Misses (hub : Hub) (id : EngineId) (record : EngineRecord) (handle : TimerHandle)
    (limit : Instant) : Prop extends hub.IsWaiting id record handle where
  once : hub.BeatsOnce
  far : ∀ entry ∈ hub.timers.running, entry.action = .own .beat → limit ≤ entry.deadline
  soon : handle.deadline ≤ limit + hub.monitor.interval

/-- The beat after the next one comes too late. -/
theorem Misses.outruns_react (misses : hub.Misses id record handle limit) (orderly : hub.Orderly)
    (room : hub.HasRoom event) (allowed : hub.allows event) (beaten : hub.beats event)
    (unreported : ¬ hub.reportsNew record.heart event) :
    (hub.react event).Outruns id record handle := by
  have waiting := misses.react orderly room unreported (misses.not_fires_of_beats orderly beaten)
  refine ⟨waiting, ?_⟩
  intro entry running due
  rw [misses.once.eq_of_beats orderly allowed beaten running due]
  have reached : limit ≤ hub.now := by
    rcases beaten with rfl | ⟨position, first, rfl, stands, active, beat⟩
    · contradiction
    · have there := Timers.mem_running.mpr ⟨List.mem_of_getElem? stands, active⟩
      exact Int.le_trans (misses.far first there beat) (first_of_allows allowed stands).2
  apply TimerHandle.Precedes.of_le
  · exact Int.le_trans misses.soon (Int.add_le_add_right reached _)
  · rcases misses.exists_running orderly with ⟨own, ownRunning, rfl⟩
    exact Nat.lt_succ_of_le (orderly.coherent.ticketed.ticket_le ownRunning)

/-- An engine is withdrawn if its heart has not answered by the next beat, and its
timer comes before the one after that. -/
theorem Misses.lapses (misses : hub.Misses id record handle limit) (orderly : hub.Orderly)
    (enough : hub.HasRoomFor history) (punctual : hub.Punctual) (timely : hub.isTimely history)
    (unanswered : ¬ hub.answersInRound record.heart history) (le : handle.deadline ≤ last) :
    hub.Lapses id last history := by
  induction history generalizing hub with
  | nil => exact absurd rfl unanswered
  | cons event history inductionHypothesis =>
      rcases isTimely_cons.mp timely with ⟨allowed, later⟩
      have next := orderly_react orderly enough.head
      have rest := enough.tail orderly
      rw [answersInRound] at unanswered
      apply Lapses.cons misses.waits (Int.le_trans (misses.now_le orderly punctual) le)
      by_cases beaten : hub.beats event
      · rw [if_pos beaten] at unanswered
        have unreported : ¬ hub.reportsNew record.heart event :=
          fun reported => unanswered (decide_eq_true (mem_newHearts.mp reported.2).1)
        have outruns := misses.outruns_react orderly enough.head allowed beaten unreported
        exact outruns.lapses next rest (punctual.react allowed) later le
      · rw [if_neg beaten] at unanswered
        by_cases fired : hub.fires handle.ticket event
        · exact misses.lapses_of_fires orderly enough fired
        · have unreported : ¬ hub.reportsNew record.heart event :=
            fun reported => beaten reported.1
          have waiting := misses.react orderly enough.head unreported fired
          have unset := (between_react orderly enough.head beaten).setsNoBeat
          have same : (hub.react event).monitor.interval = hub.monitor.interval :=
            (steps_react orderly enough.head).interval_eq
          have still : (hub.react event).Misses id record handle limit :=
            { waiting with
              once := misses.once.react orderly enough.head allowed
              far := fun entry running due => misses.far entry (unset entry running due) due
              soon := same ▸ misses.soon }
          exact inductionHypothesis still next rest (punctual.react allowed) later unanswered

end ClusterHub.Hub
