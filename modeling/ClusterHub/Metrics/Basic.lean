import ClusterHub.Text.Digits
import Std.Data.ExtTreeMap

/-!
# Counters and gauges

Totals that only grow, totals split by a tag, and levels that are overwritten.
Each is written with a line of help, a line with its type, and a line for every
series.
-/

namespace ClusterHub

/-- What every metric has. -/
structure MetricName where
  name : String
  help : String
deriving DecidableEq, Repr, Inhabited

namespace MetricName

/-- The lines that introduce a metric. -/
def header (m : MetricName) (type : String) : String :=
  "# HELP " ++ m.name ++ " " ++ m.help ++ "\n# TYPE " ++ m.name ++ " " ++ type ++ "\n"

/-- A line with a value. -/
def line (m : MetricName) (suffix value : String) : String :=
  m.name ++ suffix ++ " " ++ value ++ "\n"

/-- A label with its value, in braces. -/
def label (name value : String) : String :=
  "\x7b" ++ name ++ "=\"" ++ value ++ "\"\x7d"

end MetricName

/-- A total of 64 bits. -/
structure Counter where
  about : MetricName
  total : UInt64 := 0
deriving DecidableEq, Repr, Inhabited

namespace Counter

/-- Count several events. -/
def add (c : Counter) (n : UInt64) : Counter := { c with total := c.total + n }

/-- Count one event. -/
def increment (c : Counter) : Counter := c.add 1

/-- A counter as text. -/
def render (c : Counter) : String :=
  c.about.header "counter" ++ c.about.line "" (Text.decimal c.total.toNat)

end Counter

/-- A total for each tag that has occurred. -/
structure TaggedCounter where
  about : MetricName
  label : String
  series : Std.ExtTreeMap String UInt64 := ∅

namespace TaggedCounter

/-- The total of a tag. -/
def get (c : TaggedCounter) (tag : String) : UInt64 := c.series.getD tag 0

/-- Count one event under a tag. -/
def increment (c : TaggedCounter) (tag : String) : TaggedCounter :=
  { c with series := c.series.insert tag (c.get tag + 1) }

/-- A tagged counter as text, in ascending order of the tags. -/
def render (c : TaggedCounter) : String :=
  c.about.header "counter" ++ String.join (c.series.toList.map fun (tag, total) =>
    c.about.line (MetricName.label c.label tag) (Text.decimal total.toNat))

end TaggedCounter

/-- A level. -/
structure Gauge where
  about : MetricName
  level : Int := 0
deriving DecidableEq, Repr, Inhabited

namespace Gauge

/-- Overwrite the level. -/
def set (g : Gauge) (level : Int) : Gauge := { g with level }

/-- The text of an integer. -/
def levelText (n : Int) : String :=
  (if n < 0 then "-" else "") ++ Text.decimal n.natAbs

/-- A gauge as text. -/
def render (g : Gauge) : String :=
  g.about.header "gauge" ++ g.about.line "" (levelText g.level)

end Gauge

end ClusterHub
