import ClusterHub.Time.Instant

/-!
# Timer queues

Actions that are to run at given instants.  The entries stand in the order in
which they fall due, and entries with equal deadlines in the order in which
they were scheduled.  Cancelling a timer only marks its entry, which stays in
its place and is dropped without effect when it falls due.
-/

namespace ClusterHub

/-- A ticket for a scheduled timer. -/
structure TimerHandle where
  /-- The number of the timer within its queue, counted from 1. -/
  ticket : Nat
  deadline : Instant
deriving DecidableEq, Repr, Inhabited

/-- A scheduled action. -/
structure TimerEntry (α : Type) where
  deadline : Instant
  ticket : Nat
  /-- Whether the action is still to run. -/
  active : Bool
  action : α
deriving DecidableEq, Repr

/-- A queue of timers. -/
structure Timers (α : Type) where
  /-- How many tickets have been given out. -/
  issued : Nat := 0
  /-- The entries, in the order in which they fall due. -/
  entries : List (TimerEntry α) := []
deriving DecidableEq, Repr

namespace Timers

variable {α : Type}

instance : Inhabited (Timers α) := ⟨{}⟩

/-- Put an entry after those that fall due no later. -/
def place (entry : TimerEntry α) : List (TimerEntry α) → List (TimerEntry α)
  | [] => [entry]
  | first :: rest =>
      if entry.deadline < first.deadline then entry :: first :: rest
      else first :: place entry rest

@[simp]
theorem mem_place {entry other : TimerEntry α} {entries : List (TimerEntry α)} :
    other ∈ place entry entries ↔ other = entry ∨ other ∈ entries := by
  induction entries with
  | nil => simp [place]
  | cons first rest inductionHypothesis =>
      unfold place
      split
      · simp
      · simp only [List.mem_cons, inductionHypothesis]
        constructor
        · rintro (here | here | here)
          · exact Or.inr (Or.inl here)
          · exact Or.inl here
          · exact Or.inr (Or.inr here)
        · rintro (here | here | here)
          · exact Or.inr (Or.inl here)
          · exact Or.inl here
          · exact Or.inr (Or.inr here)

/-- Schedule an action for an instant. -/
def scheduleAt (timers : Timers α) (deadline : Instant) (action : α) :
    TimerHandle × Timers α :=
  let ticket := timers.issued + 1
  (⟨ticket, deadline⟩, ⟨ticket, place ⟨deadline, ticket, true, action⟩ timers.entries⟩)

/-- Schedule an action for some time after `now`. -/
def schedule (timers : Timers α) (now : Instant) (delay : Duration) (action : α) :
    TimerHandle × Timers α :=
  timers.scheduleAt (now + delay) action

/-- Mark a timer so that it does not run. -/
def cancel (timers : Timers α) (handle : TimerHandle) : Timers α :=
  { timers with
    entries := timers.entries.map fun entry =>
      if entry.ticket = handle.ticket then { entry with active := false } else entry }

/-- Whether a timer is still to run. -/
def isActive (timers : Timers α) (handle : TimerHandle) : Bool :=
  timers.entries.any fun entry => entry.ticket = handle.ticket && entry.active

/-- The time until the first entry falls due, zero if it is overdue.  Cancelled
entries count. -/
def nextWait (timers : Timers α) (now : Instant) : Option Duration :=
  timers.entries.head?.map fun entry => now.until entry.deadline

/-- The number of entries, cancelled ones included. -/
def size (timers : Timers α) : Nat := timers.entries.length

/-- Whether there are no entries. -/
def isEmpty (timers : Timers α) : Bool := timers.entries.isEmpty

end Timers

end ClusterHub
