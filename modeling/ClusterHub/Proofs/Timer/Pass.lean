import ClusterHub.Proofs.Timer.Turn

/-!
# What a pass runs

A pass stops a queue comes to its end by itself.  As long as actions only set timers for
some time from now, it runs every timer that was due and is not cancelled before its
turn.  An action that sets a timer for an instant that is over may put it before others
that are due: the pass is over when it stands first, and those wait for the next pass.
-/

namespace ClusterHub.World

variable {ρ α : Type} {plan : Plan ρ α} {due : Instant} {horizon : Nat} {world last : World ρ α}
  {turns before later : List (Turn ρ α)} {turn : Turn ρ α} {entry : TimerEntry α}

/-- What it means that some turns are those of a pass, from its start to its end.  The
pass is over when the first entry is not due or was set meanwhile. -/
structure Passes (plan : Plan ρ α) (world : World ρ α) (turns : List (Turn ρ α))
    (last : World ρ α) : Prop where
  takes : Takes plan world.now world.timers.issued world turns last
  stops : ∀ entry, last.timers.entries[0]? = some entry →
    ¬ (entry.deadline ≤ world.now ∧ entry.ticket ≤ world.timers.issued)

theorem fireUpTo_of_due (stands : world.timers.entries[0]? = some entry)
    (isDue : entry.deadline ≤ due) (old : entry.ticket ≤ horizon) (fuel : Nat) :
    fireUpTo (carryOut plan) due horizon (fuel + 1) world =
      ((fireUpTo (carryOut plan) due horizon fuel (Turn.after plan ⟨entry, world⟩)).1 +
          (if entry.active then 1 else 0),
        (fireUpTo (carryOut plan) due horizon fuel (Turn.after plan ⟨entry, world⟩)).2) := by
  have entries := Timers.entries_eq_of_first stands
  rw [fireUpTo, entries]
  simp only [isDue, old, and_self, if_true]
  rw [popped_eq_dropFirst entries]
  by_cases active : entry.active = true <;>
    simp [active, Turn.after, Turn.deeds, carryOut, performAll]

/-- The number of entries with old tickets is fuel enough. -/
theorem exists_takes (plan : Plan ρ α) (due : Instant) (known : horizon ≤ world.timers.issued)
    {fuel : Nat} (enough : (world.timers.upTo horizon).length ≤ fuel) :
    ∃ turns, Takes plan due horizon world turns
        (fireUpTo (carryOut plan) due horizon fuel world).2 ∧
      (∀ entry,
        (fireUpTo (carryOut plan) due horizon fuel world).2.timers.entries[0]? = some entry →
          ¬ (entry.deadline ≤ due ∧ entry.ticket ≤ horizon)) ∧
      (fireUpTo (carryOut plan) due horizon fuel world).1 =
        turns.countP fun turn => turn.entry.active := by
  induction fuel generalizing world with
  | zero =>
      refine ⟨[], .nil _, ?_, rfl⟩
      rintro entry stands ⟨_, old⟩
      have member : entry ∈ world.timers.upTo horizon :=
        Timers.mem_upTo.mpr ⟨List.mem_of_getElem? stands, old⟩
      rw [List.length_eq_zero_iff.mp (Nat.le_zero.mp enough)] at member
      contradiction
  | succ fuel inductionHypothesis =>
      by_cases more : ∃ entry, world.timers.entries[0]? = some entry ∧
          entry.deadline ≤ due ∧ entry.ticket ≤ horizon
      · rcases more with ⟨entry, stands, isDue, old⟩
        have still := Nat.le_trans known (Turn.extends_after plan ⟨entry, world⟩).issued
        have less : ((Turn.after plan ⟨entry, world⟩).timers.upTo horizon).length ≤ fuel := by
          rw [Timers.upTo_dropFirst stands old] at enough
          rw [Turn.upTo_after plan ⟨entry, world⟩ known, List.length_map]
          exact Nat.le_of_succ_le_succ enough
        rcases inductionHypothesis still less with ⟨turns, takes, stops, count⟩
        rw [fireUpTo_of_due stands isDue old]
        exact ⟨_, .cons stands isDue old takes, stops, by rw [count, List.countP_cons]⟩
      · have idle : fireUpTo (carryOut plan) due horizon (fuel + 1) world = (0, world) := by
          unfold fireUpTo
          split
          · rfl
          · next entry rest entries =>
              refine if_neg fun late => more ⟨entry, ?_, late⟩
              rw [entries]
              rfl
        rw [idle]
        exact ⟨[], .nil _, fun entry stands late => more ⟨entry, stands, late⟩, rfl⟩

theorem exists_passes (plan : Plan ρ α) (world : World ρ α) :
    ∃ turns, Passes plan world turns (world.fireDue (carryOut plan)).2 ∧
      (world.fireDue (carryOut plan)).1 = turns.countP fun turn => turn.entry.active := by
  have enough : (world.timers.upTo world.timers.issued).length ≤ world.timers.entries.length :=
    List.length_filter_le _ _
  rcases exists_takes plan world.now (Nat.le_refl _) enough with ⟨turns, takes, stops, count⟩
  exact ⟨turns, ⟨takes, stops⟩, count⟩

/-- There is one way only in which a pass can go. -/
theorem Passes.unique {others : List (Turn ρ α)} {otherLast : World ρ α}
    (passes : Passes plan world turns last) (other : Passes plan world others otherLast) :
    turns = others :=
  passes.takes.unique passes.stops other.takes other.stops

/-- A pass leaves a queue that there may be. -/
theorem arises_fireDue (arises : world.timers.Arises) (plan : Plan ρ α) :
    (world.fireDue (carryOut plan)).2.timers.Arises := by
  rcases exists_passes plan world with ⟨turns, passes, _⟩
  exact passes.takes.arises arises

namespace Passes

variable (arises : world.timers.Arises) (passes : Passes plan world turns last)
include arises passes

theorem tasks :
    turns.map (fun turn => turn.entry.task) ++
        (last.timers.upTo world.timers.issued).map TimerEntry.task =
      world.timers.entries.map TimerEntry.task := by
  rw [passes.takes.tasks (Nat.le_refl _), Timers.upTo_issued arises.ticketed]

theorem sets :
    ((last.timers.beyond world.timers.issued).map TimerEntry.task).Perm
      (turns.flatMap (Turn.sets plan)) := by
  have set := passes.takes.beyond (Nat.le_refl _)
  rwa [Timers.beyond_issued arises.ticketed] at set

/-- A timer that was there is left only if it was not due, or one with an earlier deadline
was set. -/
theorem ahead_of_left (left : entry ∈ last.timers.upTo world.timers.issued) :
    world.now < entry.deadline ∨
      ∃ set ∈ turns.flatMap (Turn.sets plan), set.1.deadline < entry.deadline := by
  have ordered := (passes.takes.arises arises).ordered
  rcases Timers.mem_upTo.mp left with ⟨member, old⟩
  rcases List.getElem_of_mem member with ⟨position, bounded, _⟩
  have stands := List.getElem?_eq_getElem (Nat.lt_of_le_of_lt (Nat.zero_le _) bounded)
  -- What the pass ended with stands no later than the timer.
  have early := ordered.precedes_of_first stands member
  have stops := passes.stops _ stands
  generalize last.timers.entries[0] = first at stands early stops
  by_cases fresh : world.timers.issued < first.ticket
  · right
    have inserted := Timers.mem_beyond.mpr ⟨List.mem_of_getElem? stands, fresh⟩
    refine ⟨first.task, (sets arises passes).mem_iff.mp (List.mem_map_of_mem inserted), ?_⟩
    rcases early with rfl | early | ⟨_, less⟩
    · exact absurd old (Nat.not_le.mpr fresh)
    · exact early
    · exact absurd (Nat.lt_of_lt_of_le less old) (Nat.lt_asymm fresh)
  · left
    have late : ¬ first.deadline ≤ world.now := fun isDue => stops ⟨isDue, Nat.not_lt.mp fresh⟩
    rcases early with rfl | early
    · exact Int.not_le.mp late
    · exact Int.lt_of_lt_of_le (Int.not_le.mp late) early.deadline_le

/-- If there is none, the turns are those of the timers that were due. -/
theorem tasks_of_ahead (ahead : ∀ entry ∈ last.timers.upTo world.timers.issued,
    world.now < entry.deadline) :
    turns.map (fun turn => turn.entry.task) =
        (world.timers.entries.filter fun entry => entry.deadline ≤ world.now).map
          TimerEntry.task ∧
      (last.timers.upTo world.timers.issued).map TimerEntry.task =
        (world.timers.entries.filter fun entry => world.now < entry.deadline).map
          TimerEntry.task := by
  have taken : ∀ task ∈ turns.map (fun turn => turn.entry.task), task.1.deadline ≤ world.now := by
    intro task mapped
    rcases List.mem_map.mp mapped with ⟨turn, member, rfl⟩
    rcases List.append_of_mem member with ⟨before, later, rfl⟩
    exact passes.takes.split.2.first.2.1
  have left : ∀ task ∈ (last.timers.upTo world.timers.issued).map TimerEntry.task,
      world.now < task.1.deadline := by
    intro task mapped
    rcases List.mem_map.mp mapped with ⟨entry, member, rfl⟩
    exact ahead entry member
  have divided : ∀ side : Instant → Bool,
      (world.timers.entries.filter fun entry => side entry.deadline).map TimerEntry.task =
        (turns.map fun turn => turn.entry.task).filter (fun task => side task.1.deadline) ++
          ((last.timers.upTo world.timers.issued).map TimerEntry.task).filter fun task =>
            side task.1.deadline := by
    intro side
    rw [← List.filter_append, tasks arises passes, List.filter_map]
    rfl
  constructor
  case left =>
    rw [divided fun deadline => deadline ≤ world.now,
      List.filter_eq_self.mpr fun task member => decide_eq_true (taken task member),
      List.filter_eq_nil_iff.mpr fun task member => by simpa using left task member,
      List.append_nil]
  case right =>
    rw [divided fun deadline => world.now < deadline,
      List.filter_eq_self.mpr fun task member => decide_eq_true (left task member),
      List.filter_eq_nil_iff.mpr fun task member => by simpa using taken task member,
      List.nil_append]

end Passes

/-! ## Timers that are set for some time from now -/

/-- What it means that a pass runs the timers that are due, each in its turn. -/
structure RunsDue (plan : Plan ρ α) (world : World ρ α) (turns : List (Turn ρ α))
    (outcome : Nat × World ρ α) : Prop where
  passes : Passes plan world turns outcome.2
  /-- Each entry that was due has one turn, and no other has one. -/
  tasks : turns.map (fun turn => turn.entry.task) =
    (world.timers.entries.filter fun entry => entry.deadline ≤ world.now).map TimerEntry.task
  sorted : turns.Pairwise fun a b => a.entry.handle.Precedes b.entry.handle
  /-- It may only have been cancelled meanwhile. -/
  exists_original : ∀ before turn later, turns = before ++ turn :: later →
    ∃ original ∈ world.timers.entries,
      turn.entry = original.afterAll (before.flatMap (Turn.deeds plan))
  active : ∀ turn ∈ turns, turn.entry.active = turn.world.timers.isActive turn.entry.handle
  /-- Whatever is done in its turn, the timer is no longer active. -/
  spent : ∀ turn ∈ turns, ∀ done,
    (turn.stage plan done).timers.isActive turn.entry.handle = false
  count : outcome.1 = turns.countP fun turn => turn.entry.active
  left : (outcome.2.timers.entries.map TimerEntry.task).Perm
    ((world.timers.entries.filter fun entry => world.now < entry.deadline).map TimerEntry.task ++
      turns.flatMap (Turn.sets plan))

/-- A pass runs the timers that are due, whatever the actions do that set timers only for
some time from now. -/
theorem runsDue_fireDue (arises : world.timers.Arises) (timely : plan.Timely) :
    ∃ turns, RunsDue plan world turns (world.fireDue (carryOut plan)) := by
  rcases exists_passes plan world with ⟨turns, passes, count⟩
  have known := Nat.le_refl world.timers.issued
  have ahead : ∀ entry ∈ (world.fireDue (carryOut plan)).2.timers.upTo world.timers.issued,
      world.now < entry.deadline := by
    intro entry left
    rcases passes.ahead_of_left arises left with ahead | ⟨set, member, early⟩
    · exact ahead
    · exact Int.lt_of_le_of_lt (passes.takes.le_of_timely timely set member) early
  rcases passes.tasks_of_ahead arises ahead with ⟨due, rest⟩
  refine ⟨turns, ?_⟩
  constructor
  case passes => exact passes
  case tasks => exact due
  case sorted => exact (passes.takes.sorted known arises.ordered).1
  case exists_original =>
    rintro before turn later rfl
    exact passes.takes.exists_original known
  case active =>
    intro turn member
    rcases List.append_of_mem member with ⟨before, later, rfl⟩
    rcases passes.takes.split with ⟨early, late⟩
    exact ((early.arises arises).ticketed.isActive_of_mem
      (List.mem_of_getElem? late.first.1)).symm
  case spent =>
    intro turn member done
    rcases List.append_of_mem member with ⟨before, later, rfl⟩
    rcases passes.takes.split with ⟨early, late⟩
    exact (Turn.spent_stage (early.arises arises) late.first.1 plan done).inactive
  case count => exact count
  case left =>
    refine ((Timers.upTo_append_beyond _ world.timers.issued).symm.map _).trans ?_
    rw [List.map_append, rest]
    exact (passes.sets arises).append_left _

/-- The first action cancels the second timer, takes its time and sets another one. -/
def busy : Plan Unit Nat
  | 0, _ => [.cancel ⟨2, 2⟩, .elapse 10, .schedule 0 4]
  | _, _ => []

/-- Four timers.  The last one is not due. -/
def busyWorld : World Unit Nat :=
  let timers := (({} : Timers Nat).scheduleAt 1 0).2
  let timers := (timers.scheduleAt 2 1).2
  let timers := (timers.scheduleAt 2 2).2
  ⟨5, (timers.scheduleAt 8 3).2, ()⟩

theorem runsDue_busy :
    busyWorld.timers.Arises ∧ busy.Timely ∧ (busyWorld.fireDue (carryOut busy)).1 = 2 ∧
      ∃ turns, RunsDue busy busyWorld turns (busyWorld.fireDue (carryOut busy)) := by
  have arises : busyWorld.timers.Arises :=
    (((Timers.Arises.empty.scheduleAt 1 0).scheduleAt 2 1).scheduleAt 2 2).scheduleAt 8 3
  have timely : busy.Timely := by
    intro action world
    cases action <;> simp [busy, Deed.Timely]
  exact ⟨arises, timely, by decide, runsDue_fireDue arises timely⟩

/-! ## Timers that are set for any instant -/

/-- Whether nothing that is done in a turn keeps a timer from having its own. -/
structure Turn.Spares (plan : Plan ρ α) (turn : Turn ρ α) (entry : TimerEntry α) : Prop where
  cancels : ∀ deed ∈ turn.deeds plan, ¬ deed.Cancels entry.ticket
  sets : ∀ set ∈ turn.sets plan, entry.deadline ≤ set.1.deadline

/-- What a pass comes to if timers may be set for any instant. -/
structure Serves (plan : Plan ρ α) (world : World ρ α) (turns : List (Turn ρ α))
    (outcome : Nat × World ρ α) : Prop where
  passes : Passes plan world turns outcome.2
  count : outcome.1 = turns.countP fun turn => turn.entry.active
  /-- A timer that is due runs, unless it is cancelled in an earlier turn, or another one
  with an earlier deadline is set in such a turn. -/
  runs_iff : ∀ entry ∈ world.timers.running, entry.deadline ≤ world.now →
    ((∃ turn ∈ turns, turn.entry = entry) ↔
      ∀ turn ∈ turns, turn.entry.handle.Precedes entry.handle → turn.Spares plan entry)
  /-- What is left was set meanwhile, was not due, or stands behind what was set. -/
  left : ∀ entry ∈ outcome.2.timers.entries, entry.task ∈ turns.flatMap (Turn.sets plan) ∨
    entry.task ∈ world.timers.entries.map TimerEntry.task ∧
      (world.now < entry.deadline ∨
        ∃ set ∈ turns.flatMap (Turn.sets plan), set.1.deadline < entry.deadline)

namespace Passes

/-- A timer that is still to run in its turn was spared in those before. -/
theorem spares_of_active (passes : Passes plan world turns last)
    (arises : world.timers.Arises) (member : turn ∈ turns) (active : turn.entry.active = true) :
    ∀ other ∈ turns, other.entry.handle.Precedes turn.entry.handle →
      other.Spares plan turn.entry := by
  intro other otherMember precedes
  have known := Nat.le_refl world.timers.issued
  rcases List.append_of_mem member with ⟨before, later, rfl⟩
  have early := (passes.takes.mem_before_iff known arises.ordered otherMember).mpr precedes
  constructor
  case cancels =>
    intro deed done
    rcases passes.takes.exists_original known with ⟨original, _, same⟩
    rw [same] at active ⊢
    rw [TimerEntry.ticket_eq_of_task (original.task_afterAll _)]
    exact (TimerEntry.active_of_active_afterAll active).2 deed
      (List.mem_flatMap.mpr ⟨other, early, done⟩)
  case sets =>
    intro set member
    exact passes.takes.le_of_set known arises set (List.mem_flatMap.mpr ⟨other, early, member⟩)

/-- A timer that was spared is in its turn as it was. -/
theorem entry_eq_of_spares (passes : Passes plan world turns last)
    (arises : world.timers.Arises) (there : entry ∈ world.timers.entries)
    (spares : ∀ other ∈ turns, other.entry.handle.Precedes entry.handle →
      other.Spares plan entry)
    (member : turn ∈ turns) (same : turn.entry.task = entry.task) : turn.entry = entry := by
  have known := Nat.le_refl world.timers.issued
  rcases List.append_of_mem member with ⟨before, later, rfl⟩
  rcases passes.takes.exists_original known with ⟨original, originalThere, left⟩
  have ticket : original.ticket = entry.ticket := by
    rw [left, TimerEntry.task_afterAll] at same
    exact TimerEntry.ticket_eq_of_task same
  rw [arises.ticketed.eq_of_mem originalThere there ticket] at left
  refine left.trans (TimerEntry.afterAll_of_spared fun deed done => ?_)
  rcases List.mem_flatMap.mp done with ⟨other, early, done⟩
  have otherMember := List.mem_append_left (turn :: later) early
  have precedes := (passes.takes.mem_before_iff known arises.ordered otherMember).mp early
  rw [TimerEntry.handle_eq_of_task same] at precedes
  exact (spares other otherMember precedes).cancels deed done

/-- A timer that is due and was spared is not left. -/
theorem not_left_of_spares (passes : Passes plan world turns last)
    (arises : world.timers.Arises) (isDue : entry.deadline ≤ world.now)
    (spares : ∀ turn ∈ turns, turn.entry.handle.Precedes entry.handle →
      turn.Spares plan entry) :
    entry.task ∉ (last.timers.upTo world.timers.issued).map TimerEntry.task := by
  intro mapped
  rcases List.mem_map.mp mapped with ⟨behind, left, same⟩
  have deadline := TimerEntry.deadline_eq_of_task same
  rcases passes.ahead_of_left arises left with ahead | ⟨set, inserted, early⟩
  · rw [deadline] at ahead
    exact Int.not_le.mpr ahead isDue
  · -- All turns came before, so also that in which the other timer was set.
    rcases List.mem_flatMap.mp inserted with ⟨turn, member, inserted⟩
    have precedes :=
      (passes.takes.sorted (Nat.le_refl _) arises.ordered).2 turn member behind left
    rw [TimerEntry.handle_eq_of_task same] at precedes
    rw [deadline] at early
    exact Int.not_le.mpr early ((spares turn member precedes).sets set inserted)

/-- A timer that is due has its turn, and is then as it was, if it was spared. -/
theorem exists_turn (passes : Passes plan world turns last) (arises : world.timers.Arises)
    (there : entry ∈ world.timers.entries) (isDue : entry.deadline ≤ world.now)
    (spares : ∀ turn ∈ turns, turn.entry.handle.Precedes entry.handle →
      turn.Spares plan entry) :
    ∃ turn ∈ turns, turn.entry = entry := by
  have place := List.mem_map_of_mem (f := TimerEntry.task) there
  rw [← passes.tasks arises, List.mem_append] at place
  rcases place with taken | left
  · rcases List.mem_map.mp taken with ⟨turn, member, same⟩
    exact ⟨turn, member, passes.entry_eq_of_spares arises there spares member same⟩
  · exact absurd left (passes.not_left_of_spares arises isDue spares)

end Passes

/-- A pass runs the timers that are due and are spared in the turns before theirs. -/
theorem serves_fireDue (arises : world.timers.Arises) (plan : Plan ρ α) :
    ∃ turns, Serves plan world turns (world.fireDue (carryOut plan)) := by
  rcases exists_passes plan world with ⟨turns, passes, count⟩
  refine ⟨turns, passes, count, ?_, ?_⟩
  · intro entry running isDue
    rcases Timers.mem_running.mp running with ⟨there, active⟩
    constructor
    · rintro ⟨turn, member, rfl⟩
      exact passes.spares_of_active arises member active
    · exact passes.exists_turn arises there isDue
  · intro entry member
    by_cases old : entry.ticket ≤ world.timers.issued
    · right
      have left := Timers.mem_upTo.mpr ⟨member, old⟩
      refine ⟨?_, passes.ahead_of_left arises left⟩
      rw [← passes.tasks arises]
      exact List.mem_append_right _ (List.mem_map_of_mem left)
    · left
      have inserted := Timers.mem_beyond.mpr ⟨member, Nat.not_le.mp old⟩
      exact (passes.sets arises).mem_iff.mp (List.mem_map_of_mem inserted)

/-- The first action sets a timer for an instant that is over. -/
def rush : Plan Unit Nat
  | 0, _ => [.scheduleAt 0 2]
  | _, _ => []

/-- Two timers. -/
def rushWorld (now : Instant) : World Unit Nat :=
  ⟨now, ((({} : Timers Nat).scheduleAt 1 0).2.scheduleAt 2 1).2, ()⟩

theorem serves_rush :
    (rushWorld 5).timers.Arises ∧ ((rushWorld 5).fireDue (carryOut rush)).1 = 1 ∧
      ∃ turns, Serves rush (rushWorld 5) turns ((rushWorld 5).fireDue (carryOut rush)) := by
  have arises : (rushWorld 5).timers.Arises := (Timers.Arises.empty.scheduleAt 1 0).scheduleAt 2 1
  exact ⟨arises, by decide, serves_fireDue arises rush⟩

/-- What it would mean that no action keeps timers that are due from their turns. -/
structure ServesAll (plan : Plan ρ α) (world : World ρ α) (turns : List (Turn ρ α))
    (outcome : Nat × World ρ α) : Prop where
  passes : Passes plan world turns outcome.2
  runs : ∀ entry ∈ world.timers.running, entry.deadline ≤ world.now →
    (∃ turn ∈ turns, turn.entry = entry) ∨
      ∃ turn ∈ turns, turn.entry.handle.Precedes entry.handle ∧
        ∃ deed ∈ turn.deeds plan, deed.Cancels entry.ticket
  left : ∀ entry ∈ outcome.2.timers.entries, entry.deadline ≤ outcome.2.now →
    entry.task ∈ turns.flatMap (Turn.sets plan)

/-- The first action takes its time. -/
def linger : Plan Unit Nat
  | 0, _ => [.elapse 10]
  | _, _ => []

/-- A timer that was due has no turn, as another one was set for an instant before it; and
one that falls due while an action runs is left, though it was not set meanwhile. -/
theorem not_servesAll_of_rush :
    (rushWorld 5).timers.Arises ∧ (rushWorld 1).timers.Arises ∧
      (¬ ∃ turns, ServesAll rush (rushWorld 5) turns ((rushWorld 5).fireDue (carryOut rush))) ∧
      ¬ ∃ turns, ServesAll linger (rushWorld 1) turns
        ((rushWorld 1).fireDue (carryOut linger)) := by
  have arises : ∀ now, (rushWorld now).timers.Arises := fun _ =>
    (Timers.Arises.empty.scheduleAt 1 0).scheduleAt 2 1
  refine ⟨arises 5, arises 1, ?_, ?_⟩
  · rintro ⟨turns, serves⟩
    have only : Passes rush (rushWorld 5) [⟨⟨1, 1, true, 0⟩, rushWorld 5⟩]
        ((rushWorld 5).fireDue (carryOut rush)).2 :=
      ⟨.cons rfl (by decide) (by decide) (.nil _), by rintro entry ⟨⟩; decide⟩
    cases serves.passes.unique only
    have second := serves.runs ⟨2, 2, true, 1⟩ (by decide) (by decide)
    simp [Turn.deeds, rush, Deed.Cancels] at second
  · rintro ⟨turns, serves⟩
    have only : Passes linger (rushWorld 1) [⟨⟨1, 1, true, 0⟩, rushWorld 1⟩]
        ((rushWorld 1).fireDue (carryOut linger)).2 :=
      ⟨.cons rfl (by decide) (by decide) (.nil _), by rintro entry ⟨⟩; decide⟩
    cases serves.passes.unique only
    have second := serves.left ⟨2, 2, true, 1⟩ (by decide) (by decide)
    simp [Turn.sets, Turn.deeds, linger, setsAll, sets] at second

end ClusterHub.World
