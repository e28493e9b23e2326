import ClusterHub.Decimal.Layout
import ClusterHub.Metrics.Basic
import ClusterHub.Time.Instant

/-!
# Histograms

How often durations fell between given bounds.  An observation is counted in
exactly one slot, and counts are only added up when they are written.  The sum
is kept in whole microseconds.
-/

namespace ClusterHub

/-- A histogram with one slot more than it has bounds; the last one is for
everything above. -/
structure Histogram where
  about : MetricName
  /-- The greatest duration of each slot but the last, in seconds. -/
  bounds : List Float
  slots : List UInt64
  sumMicros : UInt64 := 0

namespace Histogram

/-- The bounds for queries, which mostly take less than a millisecond. -/
def queryBounds : List Float :=
  [0.00005, 0.0001, 0.00025, 0.0005, 0.001, 0.0025, 0.01, 0.05, 0.25, 1.0]

/-- An empty histogram. -/
def withBounds (about : MetricName) (bounds : List Float) : Histogram :=
  { about, bounds, slots := List.replicate (bounds.length + 1) 0 }

/-- An empty histogram for queries. -/
def forQueries (about : MetricName) : Histogram := withBounds about queryBounds

/-- How many of the first bounds are below a duration, found by halving: of
`size` bounds after the first `base`, the middle one decides which half is
looked at next. -/
def countBelow (bounds : List Float) (seconds : Float) (base size : Nat) : Nat :=
  let isBelow (index : Nat) : Bool := (bounds[index]?).any fun bound => bound < seconds
  if size ≤ 1 then if isBelow base then base + 1 else base
  else
    let half := size / 2
    countBelow bounds seconds (if isBelow (base + half) then base + half else base) (size - half)
termination_by size
decreasing_by omega

/-- The slot that a duration is counted in. -/
def slotOf (h : Histogram) (seconds : Float) : Nat :=
  countBelow h.bounds seconds 0 h.bounds.length

/-- Count a duration in seconds. -/
def observe (h : Histogram) (seconds : Float) : Histogram :=
  { h with
    slots := h.slots.modify (h.slotOf seconds) (· + 1)
    sumMicros := h.sumMicros + (seconds * 1000000.0).toUInt64 }

/-- A duration in seconds: the whole seconds, and the rest in nanoseconds. -/
def seconds (d : Duration) : Float :=
  Float.ofNat (d / 1000000) + Float.ofNat (d % 1000000 * 1000) / 1000000000.0

/-- Count how long something took. -/
def time (h : Histogram) (d : Duration) : Histogram := h.observe (seconds d)

/-- The number of observations. -/
def count (h : Histogram) : UInt64 := h.slots.foldl (· + ·) 0

/-- The counts up to and including each slot, from a count so far. -/
def cumulative (seen : UInt64) : List UInt64 → List UInt64
  | [] => []
  | slot :: slots => (seen + slot) :: cumulative (seen + slot) slots

/-- A histogram as text. -/
def render (h : Histogram) : String :=
  let total := Text.decimal h.count.toNat
  let bucket (bound : String) (count : String) : String :=
    h.about.line ("_bucket" ++ MetricName.label "le" bound) count
  h.about.header "histogram" ++
    String.join ((h.bounds.zip (cumulative 0 h.slots)).map fun (bound, seen) =>
      bucket (Decimal.positionalText bound) (Text.decimal seen.toNat)) ++
    bucket "+Inf" total ++
    h.about.line "_sum" (Decimal.positionalText (h.sumMicros.toFloat / 1000000.0)) ++
    h.about.line "_count" total

end Histogram

end ClusterHub
