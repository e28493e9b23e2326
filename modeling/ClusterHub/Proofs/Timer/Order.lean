import ClusterHub.Proofs.Timer.Running

/-!
# The order of timers

The entries of a queue stand in the order of their deadlines, and those with
one deadline in the order of their tickets, whatever is set, cancelled or taken
off.  Within one instant the queue gets no entries whose deadlines are over.
-/

namespace ClusterHub

/-- Whether a timer has its turn before another one.  If both are due in one
instant, that is the one that was set first. -/
def TimerHandle.Precedes (a b : TimerHandle) : Prop :=
  a.deadline < b.deadline ∨ a.deadline = b.deadline ∧ a.ticket < b.ticket

namespace TimerHandle.Precedes

variable {a b c : TimerHandle}

theorem deadline_le (before : a.Precedes b) : a.deadline ≤ b.deadline := by
  rcases before with early | ⟨same, _⟩
  · exact Int.le_of_lt early
  · exact Int.le_of_eq same

theorem not_self : ¬ a.Precedes a := by
  rintro (early | ⟨_, less⟩)
  · exact Int.lt_irrefl _ early
  · exact Nat.lt_irrefl _ less

theorem asymm (before : a.Precedes b) : ¬ b.Precedes a := by
  rintro (early | ⟨same, less⟩)
  · exact Int.not_le.mpr early before.deadline_le
  · rcases before with early | ⟨_, more⟩
    · exact Int.ne_of_lt early same.symm
    · exact Nat.lt_asymm less more

theorem of_le (le : a.deadline ≤ b.deadline) (less : a.ticket < b.ticket) : a.Precedes b := by
  rcases Int.lt_or_eq_of_le le with early | same
  · exact Or.inl early
  · exact Or.inr ⟨same, less⟩

end TimerHandle.Precedes

namespace Timers

variable {α : Type} {timers before middle after : Timers α} {entry first : TimerEntry α}
  {now : Instant}

/-- The entries stand in the order in which they have their turns, and have
tickets that were given out. -/
structure Ordered (timers : Timers α) : Prop where
  sorted : timers.entries.Pairwise fun a b => a.handle.Precedes b.handle
  issued : ∀ entry ∈ timers.entries, entry.ticket ≤ timers.issued

/-- The first entry has its turn before any other. -/
theorem Ordered.precedes_of_first (ordered : timers.Ordered)
    (stands : timers.entries[0]? = some first) (member : entry ∈ timers.entries) :
    first = entry ∨ first.handle.Precedes entry.handle := by
  have sorted := ordered.sorted
  cases entries : timers.entries with
  | nil =>
      rw [entries] at member
      contradiction
  | cons head rest =>
      rw [entries] at sorted stands member
      cases stands
      rcases List.mem_cons.mp member with rfl | later
      · exact Or.inl rfl
      · exact Or.inr ((List.pairwise_cons.mp sorted).1 entry later)

theorem Ordered.le_of_first (ordered : timers.Ordered) (stands : timers.entries[0]? = some first)
    (member : entry ∈ timers.entries) : first.deadline ≤ entry.deadline := by
  rcases ordered.precedes_of_first stands member with rfl | before
  · exact Int.le_refl _
  · exact before.deadline_le

/-- An entry with a new ticket is put where it belongs. -/
theorem sorted_place {entries : List (TimerEntry α)}
    (sorted : entries.Pairwise fun a b => a.handle.Precedes b.handle)
    (fresh : ∀ other ∈ entries, other.ticket < entry.ticket) :
    (place entry entries).Pairwise fun a b => a.handle.Precedes b.handle := by
  induction sorted with
  | nil => simp [place]
  | @cons head rest before _ inductionHypothesis =>
      unfold place
      split
      · next early =>
          refine List.Pairwise.cons ?_ (List.Pairwise.cons before ‹_›)
          intro other member
          rcases List.mem_cons.mp member with rfl | member
          · exact Or.inl early
          · exact Or.inl (Int.lt_of_lt_of_le early (before other member).deadline_le)
      · next late =>
          refine List.Pairwise.cons ?_ (inductionHypothesis fun other member =>
            fresh other (List.mem_cons_of_mem _ member))
          intro other member
          rcases mem_place.mp member with rfl | member
          · exact .of_le (Int.not_lt.mp late) (fresh head List.mem_cons_self)
          · exact before other member

/-- What becomes of a queue within one instant: it stays in order, and deadlines
that were not there before are not over. -/
structure Arranged (now : Instant) (before after : Timers α) : Prop where
  ordered : before.Ordered → after.Ordered
  ahead : ∀ entry ∈ after.entries,
    now ≤ entry.deadline ∨ ∃ other ∈ before.entries, other.deadline = entry.deadline

theorem Arranged.refl (now : Instant) (timers : Timers α) : Arranged now timers timers where
  ordered := id
  ahead entry member := Or.inr ⟨entry, member, rfl⟩

theorem Arranged.trans (left : Arranged now before middle) (right : Arranged now middle after) :
    Arranged now before after where
  ordered ordered := right.ordered (left.ordered ordered)
  ahead entry member := by
    rcases right.ahead entry member with early | ⟨other, otherMember, same⟩
    · exact Or.inl early
    · rw [← same]
      exact left.ahead other otherMember

theorem arranged_scheduleAt {deadline : Instant} (ahead : now ≤ deadline) (action : α) :
    Arranged now timers (timers.scheduleAt deadline action).2 where
  ordered ordered := by
    constructor
    case sorted =>
      exact sorted_place ordered.sorted fun other member =>
        Nat.lt_succ_of_le (ordered.issued other member)
    case issued =>
      intro entry member
      rcases mem_place.mp member with rfl | there
      · exact Nat.le_refl _
      · exact Nat.le_succ_of_le (ordered.issued entry there)
  ahead entry member := by
    rcases mem_place.mp member with rfl | there
    · exact Or.inl ahead
    · exact Or.inr ⟨entry, there, rfl⟩

theorem arranged_schedule (now : Instant) (delay : Duration) (action : α) :
    Arranged now timers (timers.schedule now delay action).2 :=
  arranged_scheduleAt (Int.le_add_of_nonneg_right (Int.natCast_nonneg delay)) action

/-- Cancelling a timer leaves its entry where it is. -/
theorem exists_mem_of_cancel {handle : TimerHandle}
    (member : entry ∈ (timers.cancel handle).entries) :
    ∃ other ∈ timers.entries, other.handle = entry.handle := by
  rcases List.mem_map.mp member with ⟨other, there, rfl⟩
  refine ⟨other, there, ?_⟩
  split <;> rfl

theorem arranged_cancel (handle : TimerHandle) : Arranged now timers (timers.cancel handle) where
  ordered ordered := by
    constructor
    case sorted =>
      rw [cancel, List.pairwise_map]
      apply List.Pairwise.imp _ ordered.sorted
      intro a b before
      split <;> split <;> exact before
    case issued =>
      intro entry member
      rcases exists_mem_of_cancel member with ⟨other, there, same⟩
      have ticket : other.ticket = entry.ticket := congrArg TimerHandle.ticket same
      rw [← ticket]
      exact ordered.issued other there
  ahead entry member := by
    rcases exists_mem_of_cancel member with ⟨other, there, same⟩
    exact Or.inr ⟨other, there, congrArg TimerHandle.deadline same⟩

theorem arranged_dropAt (position : Nat) : Arranged now timers (timers.dropAt position) where
  ordered ordered := by
    constructor
    case sorted => exact ordered.sorted.sublist (List.eraseIdx_sublist _ _)
    case issued =>
      intro entry member
      exact ordered.issued entry (List.mem_of_mem_eraseIdx member)
  ahead entry member := Or.inr ⟨entry, List.mem_of_mem_eraseIdx member, rfl⟩

theorem ordered_empty : Ordered ({} : Timers α) := ⟨List.Pairwise.nil, List.forall_mem_nil _⟩

namespace Ordered

variable (ordered : timers.Ordered)
include ordered

/-- A timer may also be set for an instant that is over. -/
theorem scheduleAt (deadline : Instant) (action : α) :
    (timers.scheduleAt deadline action).2.Ordered :=
  (arranged_scheduleAt (Int.le_refl deadline) action).ordered ordered

theorem cancel (handle : TimerHandle) : (timers.cancel handle).Ordered :=
  have arranged : Arranged 0 timers _ := arranged_cancel handle
  arranged.ordered ordered

theorem dropAt (position : Nat) : (timers.dropAt position).Ordered :=
  have arranged : Arranged 0 timers _ := arranged_dropAt position
  arranged.ordered ordered

end Ordered

end Timers

end ClusterHub
