import ClusterHub.Timer.Queue

/-!
# Passes over a timer queue

What an action may see and change is the clock, the queue itself and the rest
of its world.  A pass runs every timer that is due when it starts, in order.
Timers that are scheduled meanwhile wait for the next pass.
-/

namespace ClusterHub

/-- The world of a timer's action. -/
structure World (ρ α : Type) where
  now : Instant
  timers : Timers α
  rest : ρ

namespace World

variable {ρ α : Type}

/-- Let time go by. -/
def elapse (world : World ρ α) (d : Duration) : World ρ α :=
  { world with now := world.now + d }

/-- Schedule an action for some time from now. -/
def schedule (world : World ρ α) (delay : Duration) (action : α) :
    TimerHandle × World ρ α :=
  let (handle, timers) := world.timers.schedule world.now delay action
  (handle, { world with timers })

/-- Schedule an action whose handle nobody keeps. -/
def scheduleFor (world : World ρ α) (delay : Duration) (action : α) : World ρ α :=
  (world.schedule delay action).2

/-- Cancel a timer. -/
def cancel (world : World ρ α) (handle : TimerHandle) : World ρ α :=
  { world with timers := world.timers.cancel handle }

/-- Change the rest of the world. -/
def modifyRest (world : World ρ α) (change : ρ → ρ) : World ρ α :=
  { world with rest := change world.rest }

/-- The same clock and timers around another rest. -/
def withRest {ρ' : Type} (world : World ρ α) (rest : ρ') : World ρ' α :=
  { now := world.now, timers := world.timers, rest }

/-- Run the timers that are due at `due` and were scheduled as number `horizon`
or before.  Every step takes an entry off the queue, at most `fuel` of them. -/
def fireUpTo (run : α → World ρ α → World ρ α) (due : Instant) (horizon : Nat) :
    Nat → World ρ α → Nat × World ρ α
  | 0, world => (0, world)
  | fuel + 1, world =>
      match world.timers.entries with
      | [] => (0, world)
      | entry :: rest =>
          if entry.deadline ≤ due ∧ entry.ticket ≤ horizon then
            let popped := { world with timers := { world.timers with entries := rest } }
            if entry.active then
              let (fired, world) := fireUpTo run due horizon fuel (run entry.action popped)
              (fired + 1, world)
            else fireUpTo run due horizon fuel popped
          else (0, world)

/-- Run every timer that is due now, and count those that ran.  Entries that
were not there at the start are not touched, so no more steps are needed than
there are entries. -/
def fireDue (run : α → World ρ α → World ρ α) (world : World ρ α) : Nat × World ρ α :=
  fireUpTo run world.now world.timers.issued world.timers.entries.length world

end World

end ClusterHub
