/-!
# Instants and durations

A clock counts microseconds, unless it is said that its steps are finer.
Instants may lie before its start, so they are integers; durations are natural
numbers.
-/

namespace ClusterHub

/-- A reading of a clock, in steps since the clock's start. -/
abbrev Instant := Int

/-- A length of time in steps of a clock. -/
abbrev Duration := Nat

namespace Duration

/-- A duration of microseconds that is given in milliseconds. -/
def ofMillis (ms : Nat) : Duration := 1000 * ms

/-- The whole milliseconds of a duration. -/
def toMillis (d : Duration) : Nat := d / 1000

@[simp]
theorem toMillis_ofMillis (ms : Nat) : toMillis (ofMillis ms) = ms := by
  simp [toMillis, ofMillis]

end Duration

/-- The time from `now` to `later`, zero if that is not ahead. -/
def Instant.until (now later : Instant) : Duration :=
  (later - now).toNat

end ClusterHub
