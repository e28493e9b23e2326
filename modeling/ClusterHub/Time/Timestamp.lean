import ClusterHub.Time.Instant

/-!
# Timestamps

Points in universal time, to the nanosecond.  A leap second has no number of
its own: it is the second before it, with a nanosecond part of one second or
more.  The calendar reaches from the first day of the year -262143 to the last
day of the year 262142.
-/

namespace ClusterHub

/-- A point in universal time. -/
structure Timestamp where
  /-- Seconds since the start of 1970, leap seconds not counted. -/
  seconds : Int
  /-- Nanoseconds into the second; those of a leap second follow the first
  thousand million. -/
  nanos : Nat
  first_le : -8334601228800 ≤ seconds
  le_last : seconds ≤ 8210266876799
  nanos_lt : nanos < 2000000000
  leap : 1000000000 ≤ nanos → seconds % 60 = 59
deriving DecidableEq, Repr

namespace Timestamp

/-- The first second of the calendar. -/
def firstSecond : Int := -8334601228800

/-- The last second of the calendar. -/
def lastSecond : Int := 8210266876799

/-- A timestamp with the given parts, if there is one. -/
def ofParts? (seconds : Int) (nanos : Nat) : Option Timestamp :=
  if h : (firstSecond ≤ seconds ∧ seconds ≤ lastSecond) ∧
      nanos < 2000000000 ∧ (1000000000 ≤ nanos → seconds % 60 = 59) then
    some ⟨seconds, nanos, h.1.1, h.1.2, h.2.1, h.2.2⟩
  else none

/-- The universal time at the clock's start: 14 November 2023, 22:13:20. -/
def clockStart : Int := 1700000000

/-- The universal time of a clock reading.  Readings beyond the calendar stand
for its first or last second. -/
def ofInstant (now : Instant) : Timestamp where
  seconds := max firstSecond (min lastSecond (clockStart + now / 1000000))
  nanos := (now % 1000000).toNat * 1000
  first_le := by simp only [firstSecond]; omega
  le_last := by simp only [firstSecond, lastSecond]; omega
  nanos_lt := by omega
  leap := by omega

instance : Inhabited Timestamp := ⟨ofInstant 0⟩

/-- Earlier timestamps come first. -/
protected def compare (a b : Timestamp) : Ordering :=
  (compare a.seconds b.seconds).then (compare a.nanos b.nanos)

instance : Ord Timestamp := ⟨Timestamp.compare⟩

@[simp]
theorem ofParts?_parts (t : Timestamp) : ofParts? t.seconds t.nanos = some t := by
  exact dif_pos ⟨⟨t.first_le, t.le_last⟩, t.nanos_lt, t.leap⟩

end Timestamp

end ClusterHub
