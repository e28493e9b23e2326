import Std.Data.ExtTreeSet

/-!
# Liveness

Which hearts beat, judged by rounds.  A heart that answers is alive; one that
misses a round is on probation, and one that misses a second in a row has
failed.
-/

namespace ClusterHub

/-- What closing a round brought about; both lists are in ascending order. -/
structure Transition where
  /-- Hearts that answered and were not alive before. -/
  newHearts : List String
  /-- Hearts that missed two rounds in a row. -/
  failures : List String
deriving DecidableEq, Repr, Inhabited

/-- Whether closing a round changed nothing. -/
def Transition.isEmpty (t : Transition) : Bool :=
  t.newHearts.isEmpty && t.failures.isEmpty

/-- The hearts that are alive, those of them that are on probation, and those
that have answered in the present round. -/
structure Liveness where
  alive : Std.ExtTreeSet String := ∅
  probation : Std.ExtTreeSet String := ∅
  responded : Std.ExtTreeSet String := ∅

namespace Liveness

instance : Inhabited Liveness := ⟨{}⟩

/-- Note that a heart answered. -/
def record (l : Liveness) (heart : String) : Liveness :=
  { l with responded := l.responded.insert heart }

/-- The hearts that are alive and have not answered. -/
def missed (l : Liveness) : Std.ExtTreeSet String := l.alive \ l.responded

/-- The hearts that have missed this round and the one before. -/
def failing (l : Liveness) : Std.ExtTreeSet String := l.probation ∩ l.missed

/-- The hearts that have answered and are not alive yet. -/
def arriving (l : Liveness) : Std.ExtTreeSet String := l.responded \ l.alive

/-- Judge every heart by the round that ends, and start the next round. -/
def closeRound (l : Liveness) : Transition × Liveness :=
  let alive := (l.alive ∪ l.arriving) \ l.failing
  (⟨l.arriving.toList, l.failing.toList⟩,
    { alive, probation := l.missed ∩ alive, responded := ∅ })

theorem mem_missed {l : Liveness} {heart : String} :
    heart ∈ l.missed ↔ heart ∈ l.alive ∧ heart ∉ l.responded := by
  simp [missed]

theorem mem_failing {l : Liveness} {heart : String} :
    heart ∈ l.failing ↔ heart ∈ l.probation ∧ heart ∈ l.missed := by
  simp [failing]

theorem mem_arriving {l : Liveness} {heart : String} :
    heart ∈ l.arriving ↔ heart ∈ l.responded ∧ heart ∉ l.alive := by
  simp [arriving]

/-- Whether a heart is alive. -/
def isAlive (l : Liveness) (heart : String) : Bool := l.alive.contains heart

/-- Whether a heart is on probation. -/
def onProbation (l : Liveness) (heart : String) : Bool := l.probation.contains heart

end Liveness

end ClusterHub
