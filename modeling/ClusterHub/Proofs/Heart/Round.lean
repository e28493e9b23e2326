import ClusterHub.Heart.Liveness

/-!
# Rounds of a heart

What the sets of a liveness record say of one heart depends on the present
round and the two before it alone: whether the heart has answered in each.
-/

namespace ClusterHub.Liveness

variable {l : Liveness} {heart other : String} {present last earlier : Prop}

/-- The sets tell in which of the last three rounds a heart has answered: the
present one, the one before it, and the one before that. -/
structure Reflects (l : Liveness) (heart : String) (present last earlier : Prop) : Prop where
  responded : heart ∈ l.responded ↔ present
  alive : heart ∈ l.alive ↔ last ∨ earlier
  probation : heart ∈ l.probation ↔ earlier ∧ ¬ last

theorem reflects_empty (heart : String) : Reflects {} heart False False False := by
  constructor <;> simp

theorem Reflects.congr {present' last' earlier' : Prop}
    (reflects : l.Reflects heart present last earlier) (samePresent : present ↔ present')
    (sameLast : last ↔ last') (sameEarlier : earlier ↔ earlier') :
    l.Reflects heart present' last' earlier' := by
  rw [← propext samePresent, ← propext sameLast, ← propext sameEarlier]
  exact reflects

theorem Reflects.record (reflects : l.Reflects heart present last earlier) (other : String) :
    (l.record other).Reflects heart (present ∨ other = heart) last earlier where
  responded := by
    simp only [Liveness.record, Std.ExtTreeSet.mem_insert, Std.LawfulEqCmp.compare_eq_iff_eq,
      reflects.responded]
    exact Or.comm
  alive := reflects.alive
  probation := reflects.probation

theorem mem_alive_closeRound :
    heart ∈ l.closeRound.2.alive ↔
      (heart ∈ l.alive ∨ heart ∈ l.responded) ∧ heart ∉ l.failing := by
  simp only [closeRound, Std.ExtTreeSet.mem_diff_iff, Std.ExtTreeSet.mem_union_iff, mem_arriving]
  by_cases alive : heart ∈ l.alive <;> simp [alive]

theorem mem_probation_closeRound :
    heart ∈ l.closeRound.2.probation ↔ heart ∈ l.missed ∧ heart ∈ l.closeRound.2.alive :=
  Std.ExtTreeSet.mem_inter_iff

theorem mem_failures_closeRound : heart ∈ l.closeRound.1.failures ↔ heart ∈ l.failing :=
  Std.ExtTreeSet.mem_toList

/-- A heart fails that has answered before the last two rounds and in neither of
them. -/
theorem Reflects.mem_failing (reflects : l.Reflects heart present last earlier) :
    heart ∈ l.failing ↔ earlier ∧ ¬ last ∧ ¬ present := by
  rw [Liveness.mem_failing, mem_missed, reflects.probation, reflects.alive, reflects.responded]
  constructor
  · rintro ⟨⟨answered, missed⟩, _, silent⟩
    exact ⟨answered, missed, silent⟩
  · rintro ⟨answered, missed, silent⟩
    exact ⟨⟨answered, missed⟩, Or.inr answered, silent⟩

/-- With the end of a round each round becomes the one before it. -/
theorem Reflects.closeRound (reflects : l.Reflects heart present last earlier) :
    l.closeRound.2.Reflects heart False present last := by
  have alive : heart ∈ l.closeRound.2.alive ↔ present ∨ last := by
    rw [mem_alive_closeRound, reflects.mem_failing, reflects.alive, reflects.responded]
    by_cases present <;> by_cases last <;> simp [*]
  constructor
  case responded => exact iff_of_false Std.ExtTreeSet.not_mem_empty id
  case alive => exact alive
  case probation =>
    rw [mem_probation_closeRound, alive, mem_missed, reflects.alive, reflects.responded]
    by_cases present <;> by_cases last <;> simp [*]

end ClusterHub.Liveness
