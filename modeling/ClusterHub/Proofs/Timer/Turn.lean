import ClusterHub.Proofs.Timer.Deed

/-!
# The turns of a pass

A pass takes one entry after the other off a queue, always the first one, as long as
that is due and has an old ticket.  What the entries with old tickets are about, and in
which order they stand, does not change meanwhile; what is set in the turns comes to
stand among them, and is not taken.
-/

namespace ClusterHub.World

variable {ρ α : Type}

/-- What the actions of timers do, given the worlds that they see. -/
abbrev Plan (ρ α : Type) := α → World ρ α → List (Deed ρ α)

/-- Whether no action sets a timer for an instant that may be over. -/
def Plan.Timely (plan : Plan ρ α) : Prop :=
  ∀ action world, ∀ deed ∈ plan action world, deed.Timely

/-- Act as a plan says. -/
def carryOut (plan : Plan ρ α) (action : α) (world : World ρ α) : World ρ α :=
  world.performAll (plan action world)

/-- The turn of an entry, which is the first one in the queue of a world. -/
structure Turn (ρ α : Type) where
  entry : TimerEntry α
  world : World ρ α

namespace Turn

/-- What is done in a turn.  That is nothing if the timer was cancelled. -/
def deeds (plan : Plan ρ α) (turn : Turn ρ α) : List (Deed ρ α) :=
  if turn.entry.active then plan turn.entry.action turn.world.dropFirst else []

/-- The timers that are set in a turn. -/
def sets (plan : Plan ρ α) (turn : Turn ρ α) : List (TimerHandle × α) :=
  turn.world.dropFirst.setsAll (turn.deeds plan)

/-- The world when the first few things of a turn are done. -/
def stage (plan : Plan ρ α) (turn : Turn ρ α) (done : Nat) : World ρ α :=
  turn.world.dropFirst.performAll ((turn.deeds plan).take done)

/-- The world after a turn. -/
def after (plan : Plan ρ α) (turn : Turn ρ α) : World ρ α :=
  turn.world.dropFirst.performAll (turn.deeds plan)

end Turn

/-- The turns that lead from one world to another one.  Each is that of the first entry,
which is due and has a ticket up to the horizon. -/
inductive Takes (plan : Plan ρ α) (due : Instant) (horizon : Nat) :
    World ρ α → List (Turn ρ α) → World ρ α → Prop
  | nil (world : World ρ α) : Takes plan due horizon world [] world
  | cons {world last : World ρ α} {entry : TimerEntry α} {turns : List (Turn ρ α)}
      (stands : world.timers.entries[0]? = some entry) (isDue : entry.deadline ≤ due)
      (old : entry.ticket ≤ horizon)
      (rest : Takes plan due horizon (Turn.after plan ⟨entry, world⟩) turns last) :
      Takes plan due horizon world (⟨entry, world⟩ :: turns) last

variable {plan : Plan ρ α} {due : Instant} {horizon : Nat} {world last : World ρ α}
  {turn : Turn ρ α} {turns before later : List (Turn ρ α)} {entry : TimerEntry α}

namespace Turn

theorem extends_after (plan : Plan ρ α) (turn : Turn ρ α) :
    turn.world.timers.Extends (turn.after plan).timers :=
  (Timers.extends_dropAt 0).trans (extends_performAll turn.world.dropFirst _)

theorem arises_after (plan : Plan ρ α) (turn : Turn ρ α) (arises : turn.world.timers.Arises) :
    (turn.after plan).timers.Arises :=
  arises_performAll arises.dropFirst _

/-- The entries with old tickets, apart from the one whose turn it is. -/
theorem upTo_after (plan : Plan ρ α) (turn : Turn ρ α)
    (known : horizon ≤ turn.world.timers.issued) :
    (turn.after plan).timers.upTo horizon =
      ((turn.world.timers.dropAt 0).upTo horizon).map fun entry =>
        entry.afterAll (turn.deeds plan) := by
  have known : horizon ≤ turn.world.dropFirst.timers.issued := known
  exact upTo_performAll known _

theorem beyond_after (plan : Plan ρ α) (turn : Turn ρ α)
    (known : horizon ≤ turn.world.timers.issued)
    (stands : turn.world.timers.entries[0]? = some turn.entry)
    (old : turn.entry.ticket ≤ horizon) :
    (((turn.after plan).timers.beyond horizon).map TimerEntry.task).Perm
      ((turn.world.timers.beyond horizon).map TimerEntry.task ++ turn.sets plan) := by
  have known : horizon ≤ turn.world.dropFirst.timers.issued := known
  rw [← Timers.beyond_dropFirst stands old]
  exact beyond_performAll known _

theorem now_le_after (plan : Plan ρ α) (turn : Turn ρ α) :
    turn.world.now ≤ (turn.after plan).now :=
  now_le_performAll turn.world.dropFirst _

theorem le_of_set (turn : Turn ρ α) (timely : plan.Timely) :
    ∀ set ∈ turn.sets plan, turn.world.now ≤ set.1.deadline := by
  have timely : ∀ deed ∈ turn.deeds plan, deed.Timely := by
    unfold deeds
    split
    · exact timely _ _
    · exact nofun
  have ahead : ∀ set ∈ turn.world.dropFirst.setsAll (turn.deeds plan),
      turn.world.dropFirst.now ≤ set.1.deadline := le_of_setsAll timely
  exact ahead

/-- A timer does not run a second time: whatever is done in its turn, it is spent. -/
theorem spent_stage (arises : turn.world.timers.Arises)
    (stands : turn.world.timers.entries[0]? = some turn.entry) (plan : Plan ρ α) (done : Nat) :
    (turn.stage plan done).timers.Spent turn.entry.handle := by
  have dropped : turn.world.dropFirst.timers.Spent turn.entry.handle := by
    constructor
    case issued => exact arises.ordered.issued _ (List.mem_of_getElem? stands)
    case inactive =>
      apply Timers.isActive_eq_false_iff.mpr
      intro entry member
      exact ((arises.ticketed.mem_running_dropAt stands).mp member).2
  exact dropped.extends (extends_performAll _ _)

end Turn

/-! ## One turn after another -/

namespace Takes

theorem arises (takes : Takes plan due horizon world turns last)
    (arises : world.timers.Arises) : last.timers.Arises := by
  induction takes with
  | nil => exact arises
  | @cons world _ entry _ _ _ _ _ inductionHypothesis =>
      exact inductionHypothesis (Turn.arises_after plan ⟨entry, world⟩ arises)

/-- Turns that cannot go on are determined by the world in which they start. -/
theorem unique {others : List (Turn ρ α)} {otherLast : World ρ α}
    (takes : Takes plan due horizon world turns last)
    (stops : ∀ entry, last.timers.entries[0]? = some entry →
      ¬ (entry.deadline ≤ due ∧ entry.ticket ≤ horizon))
    (other : Takes plan due horizon world others otherLast)
    (otherStops : ∀ entry, otherLast.timers.entries[0]? = some entry →
      ¬ (entry.deadline ≤ due ∧ entry.ticket ≤ horizon)) : turns = others := by
  induction takes generalizing others with
  | nil =>
      cases other with
      | nil => rfl
      | cons stands isDue old _ => exact absurd ⟨isDue, old⟩ (stops _ stands)
  | cons stands isDue old _ inductionHypothesis =>
      cases other with
      | nil => exact absurd ⟨isDue, old⟩ (otherStops _ stands)
      | cons otherStands _ _ rest =>
          cases stands.symm.trans otherStands
          rw [inductionHypothesis stops rest]

/-- The turns before some turn, and those from it on. -/
theorem split (takes : Takes plan due horizon world (before ++ turn :: later) last) :
    Takes plan due horizon world before turn.world ∧
      Takes plan due horizon turn.world (turn :: later) last := by
  induction before generalizing world with
  | nil =>
      cases takes with
      | cons stands isDue old rest => exact ⟨.nil _, .cons stands isDue old rest⟩
  | cons first before inductionHypothesis =>
      cases takes with
      | cons stands isDue old rest =>
          rcases inductionHypothesis rest with ⟨early, late⟩
          exact ⟨.cons stands isDue old early, late⟩

theorem first (takes : Takes plan due horizon world (turn :: later) last) :
    world.timers.entries[0]? = some turn.entry ∧ turn.entry.deadline ≤ due ∧
      turn.entry.ticket ≤ horizon := by
  cases takes with
  | cons stands isDue old _ => exact ⟨stands, isDue, old⟩

/-- The entries with old tickets after some turns are those that have not had theirs, as
the deeds leave them. -/
theorem upTo (takes : Takes plan due horizon world turns last)
    (known : horizon ≤ world.timers.issued) :
    last.timers.upTo horizon = ((world.timers.upTo horizon).drop turns.length).map fun entry =>
      entry.afterAll (turns.flatMap (Turn.deeds plan)) := by
  induction takes with
  | nil => exact (List.map_id _).symm
  | @cons world _ entry turns stands _ old _ inductionHypothesis =>
      have still := Nat.le_trans known (Turn.extends_after plan ⟨entry, world⟩).issued
      rw [inductionHypothesis still, Turn.upTo_after plan ⟨entry, world⟩ known, ← List.map_drop,
        List.map_map, Timers.upTo_dropFirst stands old]
      simp [Function.comp_def, TimerEntry.afterAll_append]

/-- The entries with old tickets have their turns in the order in which they stand. -/
theorem tasks (takes : Takes plan due horizon world turns last)
    (known : horizon ≤ world.timers.issued) :
    turns.map (fun turn => turn.entry.task) ++ (last.timers.upTo horizon).map TimerEntry.task =
      (world.timers.upTo horizon).map TimerEntry.task := by
  induction takes with
  | nil => rfl
  | @cons world _ entry turns stands _ old _ inductionHypothesis =>
      have still := Nat.le_trans known (Turn.extends_after plan ⟨entry, world⟩).issued
      rw [List.map_cons, List.cons_append, inductionHypothesis still,
        Turn.upTo_after plan ⟨entry, world⟩ known, Timers.upTo_dropFirst stands old]
      simp [Function.comp_def]

/-- The timers with new tickets are those that are set in the turns. -/
theorem beyond (takes : Takes plan due horizon world turns last)
    (known : horizon ≤ world.timers.issued) :
    ((last.timers.beyond horizon).map TimerEntry.task).Perm
      ((world.timers.beyond horizon).map TimerEntry.task ++ turns.flatMap (Turn.sets plan)) := by
  induction takes with
  | nil => exact List.Perm.of_eq (List.append_nil _).symm
  | @cons world _ entry turns stands _ old _ inductionHypothesis =>
      have still := Nat.le_trans known (Turn.extends_after plan ⟨entry, world⟩).issued
      refine (inductionHypothesis still).trans ?_
      rw [List.flatMap_cons, ← List.append_assoc]
      exact (Turn.beyond_after plan ⟨entry, world⟩ known stands old).append_right _

/-- An entry in its turn is what the deeds of earlier turns leave of it. -/
theorem exists_original (takes : Takes plan due horizon world (before ++ turn :: later) last)
    (known : horizon ≤ world.timers.issued) :
    ∃ original ∈ world.timers.entries,
      turn.entry = original.afterAll (before.flatMap (Turn.deeds plan)) := by
  rcases takes.split with ⟨early, late⟩
  rcases late.first with ⟨stands, _, old⟩
  have member : turn.entry ∈ turn.world.timers.upTo horizon :=
    Timers.mem_upTo.mpr ⟨List.mem_of_getElem? stands, old⟩
  rw [early.upTo known] at member
  rcases List.mem_map.mp member with ⟨original, there, same⟩
  exact ⟨original, (Timers.mem_upTo.mp (List.mem_of_mem_drop there)).1, same.symm⟩

/-- Turns come in the order of the entries, and before the turns of those that are left. -/
theorem sorted (takes : Takes plan due horizon world turns last)
    (known : horizon ≤ world.timers.issued) (ordered : world.timers.Ordered) :
    turns.Pairwise (fun a b => a.entry.handle.Precedes b.entry.handle) ∧
      ∀ turn ∈ turns, ∀ entry ∈ last.timers.upTo horizon,
        turn.entry.handle.Precedes entry.handle := by
  have sorted : ((world.timers.upTo horizon).map TimerEntry.task).Pairwise
      fun a b => a.1.Precedes b.1 := List.pairwise_map.mpr (ordered.sorted.filter _)
  rw [← takes.tasks known, List.pairwise_append, List.pairwise_map] at sorted
  rcases sorted with ⟨among, _, between⟩
  refine ⟨among, fun turn member entry left => ?_⟩
  exact between _ (List.mem_map_of_mem member) _ (List.mem_map_of_mem left)

/-- Turns among which one precedes another one. -/
theorem mem_before_iff (takes : Takes plan due horizon world (before ++ turn :: later) last)
    (known : horizon ≤ world.timers.issued) (ordered : world.timers.Ordered) {other : Turn ρ α}
    (member : other ∈ before ++ turn :: later) :
    other ∈ before ↔ other.entry.handle.Precedes turn.entry.handle := by
  rcases List.pairwise_append.mp (takes.sorted known ordered).1 with ⟨_, after, between⟩
  constructor
  · exact fun early => between other early turn List.mem_cons_self
  · intro precedes
    rcases List.mem_append.mp member with early | late
    · exact early
    · rcases List.mem_cons.mp late with rfl | late
      · exact absurd precedes TimerHandle.Precedes.not_self
      · exact absurd precedes ((List.pairwise_cons.mp after).1 other late).asymm

theorem le_of_timely (takes : Takes plan due horizon world turns last) (timely : plan.Timely) :
    ∀ set ∈ turns.flatMap (Turn.sets plan), world.now ≤ set.1.deadline := by
  induction takes with
  | nil => exact nofun
  | @cons world _ entry turns _ _ _ _ inductionHypothesis =>
      intro set member
      rcases List.mem_append.mp member with here | later
      · exact Turn.le_of_set ⟨entry, world⟩ timely set here
      · exact Int.le_trans (Turn.now_le_after plan ⟨entry, world⟩) (inductionHypothesis set later)

/-- A turn is that of a timer that falls due no later than what was set before. -/
theorem le_of_set (takes : Takes plan due horizon world (before ++ turn :: later) last)
    (known : horizon ≤ world.timers.issued) (arises : world.timers.Arises) :
    ∀ set ∈ before.flatMap (Turn.sets plan), turn.entry.deadline ≤ set.1.deadline := by
  intro set member
  rcases takes.split with ⟨early, late⟩
  have task := (early.beyond known).mem_iff.mpr (List.mem_append_right _ member)
  rcases List.mem_map.mp task with ⟨entry, there, rfl⟩
  exact (early.arises arises).ordered.le_of_first late.first.1 (Timers.mem_beyond.mp there).1

end Takes

end ClusterHub.World
