import ClusterHub.Timer.Queue

/-!
# Running timers

What a queue of timers will still do is given by its running entries, those
that have not been cancelled.  Each has a ticket of its own, so cancelling a
timer and taking it off the queue come to the same.
-/

namespace ClusterHub

/-- The handle that was given out for an entry. -/
def TimerEntry.handle {α : Type} (entry : TimerEntry α) : TimerHandle :=
  ⟨entry.ticket, entry.deadline⟩

namespace Timers

variable {α : Type} {timers : Timers α} {entry : TimerEntry α}

/-- The entries that have not been cancelled. -/
def running (timers : Timers α) : List (TimerEntry α) :=
  timers.entries.filter TimerEntry.active

/-- The queue without the entry at a position. -/
def dropAt (timers : Timers α) (position : Nat) : Timers α :=
  { timers with entries := timers.entries.eraseIdx position }

/-- The queue with a timer cancelled, if one is given. -/
def disarm (timers : Timers α) (handle : Option TimerHandle) : Timers α :=
  handle.elim timers timers.cancel

/-- Every ticket was given out once. -/
structure Ticketed (timers : Timers α) : Prop where
  issued : ∀ entry ∈ timers.entries, entry.ticket ≤ timers.issued
  distinct : timers.entries.Pairwise fun a b => a.ticket ≠ b.ticket

theorem mem_running : entry ∈ timers.running ↔ entry ∈ timers.entries ∧ entry.active := by
  simp [running]

theorem place_perm (entry : TimerEntry α) (entries : List (TimerEntry α)) :
    (place entry entries).Perm (entry :: entries) := by
  induction entries with
  | nil => exact List.Perm.refl _
  | cons first rest inductionHypothesis =>
      unfold place
      split
      · exact List.Perm.refl _
      · exact (inductionHypothesis.cons first).trans (List.Perm.swap entry first rest)

theorem mem_running_scheduleAt {deadline : Instant} {action : α} :
    entry ∈ (timers.scheduleAt deadline action).2.running ↔
      entry = ⟨deadline, timers.issued + 1, true, action⟩ ∨ entry ∈ timers.running := by
  simp only [mem_running, scheduleAt, mem_place]
  constructor
  · rintro ⟨equal | member, active⟩
    · exact Or.inl equal
    · exact Or.inr ⟨member, active⟩
  · rintro (rfl | ⟨member, active⟩)
    · exact ⟨Or.inl rfl, rfl⟩
    · exact ⟨Or.inr member, active⟩

theorem mem_running_cancel {handle : TimerHandle} :
    entry ∈ (timers.cancel handle).running ↔
      entry ∈ timers.running ∧ entry.ticket ≠ handle.ticket := by
  simp only [mem_running, cancel, List.mem_map]
  constructor
  · rintro ⟨⟨before, member, rfl⟩, active⟩
    by_cases equal : before.ticket = handle.ticket
    · simp [equal] at active
    · simpa [equal, member] using active
  · rintro ⟨⟨member, active⟩, different⟩
    exact ⟨⟨entry, member, by simp [different]⟩, active⟩

theorem mem_running_disarm {handle : Option TimerHandle} :
    entry ∈ (timers.disarm handle).running ↔
      entry ∈ timers.running ∧ ∀ cancelled, handle = some cancelled →
        entry.ticket ≠ cancelled.ticket := by
  cases handle with
  | none => simp [disarm]
  | some handle => simp [disarm, mem_running_cancel]

/-- One queue comes after another if its running entries were there or got a new
ticket. -/
structure Extends (before after : Timers α) : Prop where
  issued : before.issued ≤ after.issued
  running : ∀ entry ∈ after.running, entry ∈ before.running ∨ before.issued < entry.ticket

theorem Extends.refl (timers : Timers α) : timers.Extends timers where
  issued := Nat.le_refl _
  running _ member := Or.inl member

theorem Extends.trans {first second third : Timers α} (left : first.Extends second)
    (right : second.Extends third) : first.Extends third where
  issued := Nat.le_trans left.issued right.issued
  running entry member := by
    rcases right.running entry member with there | later
    · exact left.running entry there
    · exact Or.inr (Nat.lt_of_le_of_lt left.issued later)

theorem extends_scheduleAt (deadline : Instant) (action : α) :
    timers.Extends (timers.scheduleAt deadline action).2 where
  issued := Nat.le_succ _
  running entry member := by
    rcases mem_running_scheduleAt.mp member with rfl | there
    · exact Or.inr (Nat.lt_succ_self _)
    · exact Or.inl there

theorem extends_disarm (handle : Option TimerHandle) :
    timers.Extends (timers.disarm handle) where
  issued := by cases handle <;> exact Nat.le_refl _
  running _ member := Or.inl (mem_running_disarm.mp member).1

theorem mem_running_of_dropAt {position : Nat} (member : entry ∈ (timers.dropAt position).running) :
    entry ∈ timers.running := by
  rcases mem_running.mp member with ⟨there, active⟩
  exact mem_running.mpr ⟨List.mem_of_mem_eraseIdx there, active⟩

theorem extends_dropAt (position : Nat) : timers.Extends (timers.dropAt position) where
  issued := Nat.le_refl _
  running _ member := Or.inl (mem_running_of_dropAt member)

theorem ticketed_empty : Ticketed ({} : Timers α) := by
  constructor <;> simp

namespace Ticketed

theorem eq_of_mem (ticketed : timers.Ticketed) {other : TimerEntry α}
    (member : entry ∈ timers.entries) (otherMember : other ∈ timers.entries)
    (equal : entry.ticket = other.ticket) : entry = other := by
  rcases List.getElem_of_mem member with ⟨i, bound, rfl⟩
  rcases List.getElem_of_mem otherMember with ⟨j, otherBound, rfl⟩
  have distinct := List.pairwise_iff_getElem.mp ticketed.distinct
  rcases Nat.lt_trichotomy i j with before | same | after
  · exact absurd equal (distinct i j bound otherBound before)
  · subst same
    rfl
  · exact absurd equal.symm (distinct j i otherBound bound after)

theorem eq_of_running (ticketed : timers.Ticketed) {other : TimerEntry α}
    (member : entry ∈ timers.running) (otherMember : other ∈ timers.running)
    (equal : entry.ticket = other.ticket) : entry = other :=
  ticketed.eq_of_mem (mem_running.mp member).1 (mem_running.mp otherMember).1 equal

theorem ticket_le (ticketed : timers.Ticketed) (member : entry ∈ timers.running) :
    entry.ticket ≤ timers.issued :=
  ticketed.issued entry (mem_running.mp member).1

theorem scheduleAt (ticketed : timers.Ticketed) (deadline : Instant) (action : α) :
    (timers.scheduleAt deadline action).2.Ticketed := by
  constructor
  · intro entry member
    simp only [Timers.scheduleAt, mem_place] at member ⊢
    rcases member with rfl | member
    · exact Nat.le_refl _
    · exact Nat.le_succ_of_le (ticketed.issued entry member)
  · have fresh : ∀ entry ∈ timers.entries, timers.issued + 1 ≠ entry.ticket := by
      intro entry member
      have := ticketed.issued entry member
      omega
    exact (place_perm _ timers.entries).symm.pairwise
      (List.Pairwise.cons fresh ticketed.distinct) Ne.symm

theorem cancel (ticketed : timers.Ticketed) (handle : TimerHandle) :
    (timers.cancel handle).Ticketed := by
  constructor
  · intro entry member
    simp only [Timers.cancel, List.mem_map] at member
    rcases member with ⟨before, member, rfl⟩
    have := ticketed.issued before member
    split <;> exact this
  · rw [Timers.cancel, List.pairwise_map]
    apply ticketed.distinct.imp
    intro a b different
    split <;> split <;> exact different

theorem disarm (ticketed : timers.Ticketed) (handle : Option TimerHandle) :
    (timers.disarm handle).Ticketed := by
  cases handle with
  | none => exact ticketed
  | some handle => exact ticketed.cancel handle

theorem dropAt (ticketed : timers.Ticketed) (position : Nat) :
    (timers.dropAt position).Ticketed where
  issued entry member := ticketed.issued entry (List.mem_of_mem_eraseIdx member)
  distinct := ticketed.distinct.sublist (List.eraseIdx_sublist _ _)

/-- Taking an entry off the queue takes it, and nothing else, out of the running
ones. -/
theorem mem_running_dropAt (ticketed : timers.Ticketed) {position : Nat} {due : TimerEntry α}
    (found : timers.entries[position]? = some due) :
    entry ∈ (timers.dropAt position).running ↔
      entry ∈ timers.running ∧ entry.ticket ≠ due.ticket := by
  simp only [mem_running, Timers.dropAt, List.mem_eraseIdx_iff_getElem?]
  constructor
  · rintro ⟨⟨i, different, here⟩, active⟩
    refine ⟨⟨List.mem_of_getElem? here, active⟩, ?_⟩
    rcases List.getElem?_eq_some_iff.mp here with ⟨bound, rfl⟩
    rcases List.getElem?_eq_some_iff.mp found with ⟨dueBound, rfl⟩
    have distinct := List.pairwise_iff_getElem.mp ticketed.distinct
    rcases Nat.lt_or_gt_of_ne different with before | after
    · exact distinct i position bound dueBound before
    · exact (distinct position i dueBound bound after).symm
  · rintro ⟨⟨member, active⟩, different⟩
    rcases List.getElem?_of_mem member with ⟨i, here⟩
    refine ⟨⟨i, ?_, here⟩, active⟩
    intro same
    subst same
    rw [found] at here
    exact different (congrArg TimerEntry.ticket (Option.some.inj here)).symm

end Ticketed

/-! ## Handles -/

variable {before after : Timers α} {handle : TimerHandle}

/-- A timer that was given out and will not run. -/
structure Spent (timers : Timers α) (handle : TimerHandle) : Prop where
  issued : handle.ticket ≤ timers.issued
  inactive : timers.isActive handle = false

theorem isActive_eq_false_iff :
    timers.isActive handle = false ↔ ∀ entry ∈ timers.running, entry.ticket ≠ handle.ticket := by
  simp only [isActive, mem_running, List.any_eq_false, Bool.and_eq_true, decide_eq_true_eq]
  constructor
  · rintro silent entry ⟨member, active⟩ same
    exact silent entry member ⟨same, active⟩
  · rintro silent entry member ⟨same, active⟩
    exact silent entry ⟨member, active⟩ same

/-- New timers get new tickets. -/
theorem Spent.extends (spent : before.Spent handle) (later : before.Extends after) :
    after.Spent handle where
  issued := Nat.le_trans spent.issued later.issued
  inactive := by
    apply isActive_eq_false_iff.mpr
    intro entry member same
    rcases later.running entry member with there | fresh
    · exact isActive_eq_false_iff.mp spent.inactive entry there same
    · rw [same] at fresh
      exact Nat.not_le_of_lt fresh spent.issued

theorem spent_disarm (issued : handle.ticket ≤ timers.issued) :
    (timers.disarm (some handle)).Spent handle where
  issued := issued
  inactive := isActive_eq_false_iff.mpr fun _ member =>
    (mem_running_disarm.mp member).2 handle rfl

end Timers

end ClusterHub
