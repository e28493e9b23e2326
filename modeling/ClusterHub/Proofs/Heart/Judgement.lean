import ClusterHub.Proofs.Heart.Round
import Mathlib.Data.List.Induction

/-!
# The judgement of rounds

In a round some hearts answer, and then the round is closed.  After any rounds,
what is known of a heart and what the next round reports of it are given by
whether it has answered in that round and in the two before.
-/

namespace ClusterHub.Liveness

/-- Let some hearts answer, one after the other. -/
def recordAll (l : Liveness) (answers : List String) : Liveness := answers.foldl record l

/-- A whole round: some hearts answer, and the round is closed. -/
def round (l : Liveness) (answers : List String) : Transition × Liveness :=
  (l.recordAll answers).closeRound

/-- What is known after some rounds, the first one first. -/
def afterRounds (rounds : List (List String)) : Liveness :=
  rounds.foldl (fun l answers => (l.round answers).2) {}

/-- Whether a heart has answered in the round with so many rounds after it.  In
rounds that there were not, nobody has. -/
def Answered (rounds : List (List String)) (heart : String) (later : Nat) : Prop :=
  ∃ answers, rounds.reverse[later]? = some answers ∧ heart ∈ answers

variable {l : Liveness} {rounds : List (List String)} {answers : List String} {heart : String}
  {later : Nat} {present last earlier : Prop}

theorem not_answered_nil : ¬ Answered [] heart later := by
  rintro ⟨answers, found, _⟩
  contradiction

theorem answered_concat_zero : Answered (rounds ++ [answers]) heart 0 ↔ heart ∈ answers := by
  simp [Answered]

theorem answered_concat_succ :
    Answered (rounds ++ [answers]) heart (later + 1) ↔ Answered rounds heart later := by
  simp [Answered]

theorem afterRounds_concat :
    afterRounds (rounds ++ [answers]) = ((afterRounds rounds).round answers).2 := by
  simp [afterRounds]

theorem Reflects.recordAll (reflects : l.Reflects heart present last earlier)
    (answers : List String) :
    (l.recordAll answers).Reflects heart (present ∨ heart ∈ answers) last earlier := by
  induction answers generalizing l present with
  | nil => exact reflects.congr (by simp) Iff.rfl Iff.rfl
  | cons first answers inductionHypothesis =>
      refine (inductionHypothesis (reflects.record first)).congr ?_ Iff.rfl Iff.rfl
      rw [List.mem_cons, or_assoc, eq_comm]

/-- After any rounds, nobody has answered in the present one, and the sets tell who
has in the last two. -/
theorem reflects_afterRounds (rounds : List (List String)) (heart : String) :
    (afterRounds rounds).Reflects heart False (Answered rounds heart 0)
      (Answered rounds heart 1) := by
  induction rounds using List.reverseRecOn with
  | nil =>
      exact (reflects_empty heart).congr Iff.rfl (iff_of_false id not_answered_nil)
        (iff_of_false id not_answered_nil)
  | append_singleton rounds answers inductionHypothesis =>
      rw [afterRounds_concat]
      refine (inductionHypothesis.recordAll answers).closeRound.congr Iff.rfl ?_ ?_
      · rw [answered_concat_zero, false_or]
      · rw [answered_concat_succ]

/-- The hearts that have answered in a round that is not closed are those that
answered since the last one was. -/
theorem reflects_recordAll (rounds : List (List String)) (answers : List String)
    (heart : String) :
    ((afterRounds rounds).recordAll answers).Reflects heart (heart ∈ answers)
      (Answered rounds heart 0) (Answered rounds heart 1) :=
  ((reflects_afterRounds rounds heart).recordAll answers).congr (by simp) Iff.rfl Iff.rfl

theorem mem_newHearts_closeRound :
    heart ∈ l.closeRound.1.newHearts ↔ heart ∈ l.responded ∧ heart ∉ l.alive :=
  Std.ExtTreeSet.mem_toList.trans mem_arriving

theorem Reflects.mem_newHearts (reflects : l.Reflects heart present last earlier) :
    heart ∈ l.closeRound.1.newHearts ↔ present ∧ ¬ last ∧ ¬ earlier := by
  rw [mem_newHearts_closeRound, reflects.responded, reflects.alive, not_or]

theorem Reflects.mem_failures (reflects : l.Reflects heart present last earlier) :
    heart ∈ l.closeRound.1.failures ↔ earlier ∧ ¬ last ∧ ¬ present :=
  mem_failures_closeRound.trans reflects.mem_failing

/-- The list of a set is strictly ascending. -/
theorem ascending_toList (hearts : Std.ExtTreeSet String) :
    hearts.toList.Pairwise (· < ·) :=
  hearts.ordered_toList.imp compareOfLessAndEq_eq_lt.mp

theorem mem_newHearts_round :
    heart ∈ ((afterRounds rounds).round answers).1.newHearts ↔
      heart ∈ answers ∧ ¬ Answered rounds heart 0 ∧ ¬ Answered rounds heart 1 :=
  (reflects_recordAll rounds answers heart).mem_newHearts

theorem mem_failures_round :
    heart ∈ ((afterRounds rounds).round answers).1.failures ↔
      Answered rounds heart 1 ∧ ¬ Answered rounds heart 0 ∧ heart ∉ answers :=
  (reflects_recordAll rounds answers heart).mem_failures

/-- What a liveness record makes of some rounds and the one that comes next. -/
structure Classifies (rounds : List (List String)) (answers : List String) : Prop where
  alive : ∀ heart, (afterRounds rounds).isAlive heart = true ↔
    Answered rounds heart 0 ∨ Answered rounds heart 1
  onProbation : ∀ heart, (afterRounds rounds).onProbation heart = true ↔
    Answered rounds heart 1 ∧ ¬ Answered rounds heart 0
  newHearts : ∀ heart, heart ∈ ((afterRounds rounds).round answers).1.newHearts ↔
    heart ∈ answers ∧ ¬ Answered rounds heart 0 ∧ ¬ Answered rounds heart 1
  failures : ∀ heart, heart ∈ ((afterRounds rounds).round answers).1.failures ↔
    Answered rounds heart 1 ∧ ¬ Answered rounds heart 0 ∧ heart ∉ answers
  ascending : ((afterRounds rounds).round answers).1.newHearts.Pairwise (· < ·) ∧
    ((afterRounds rounds).round answers).1.failures.Pairwise (· < ·)
  /-- The answers of a round do not count in the next one. -/
  responded : ∀ heart, heart ∈ ((afterRounds rounds).recordAll answers).responded ↔
    heart ∈ answers

/-- After any rounds a heart is alive if it has answered in one of the last two, and
on probation if that was not the last one.  The next round reports it as new if it
answers then and in neither of the last two, and as failed if it has answered in the
one before the last, but neither in the last nor then. -/
theorem classifies_rounds (rounds : List (List String)) (answers : List String) :
    Classifies rounds answers where
  alive heart := Std.ExtTreeSet.contains_iff_mem.trans (reflects_afterRounds rounds heart).alive
  onProbation heart :=
    Std.ExtTreeSet.contains_iff_mem.trans (reflects_afterRounds rounds heart).probation
  newHearts _ := mem_newHearts_round
  failures _ := mem_failures_round
  ascending := ⟨ascending_toList _, ascending_toList _⟩
  responded heart := (reflects_recordAll rounds answers heart).responded

/-- A heart that answers twice and then misses two rounds. -/
example :
    ((afterRounds [["b", "a"], ["a", "b", "a"], ["b"]]).round ["b", "c"]).1 =
      ⟨["c"], ["a"]⟩ := by
  decide +kernel

/-! ## Rise and fall -/

/-- A heart is reported as new exactly if the round makes it alive. -/
theorem mem_newHearts_iff_rises (rounds : List (List String)) (answers : List String)
    (heart : String) :
    heart ∈ ((afterRounds rounds).round answers).1.newHearts ↔
      heart ∉ (afterRounds rounds).alive ∧ heart ∈ (afterRounds (rounds ++ [answers])).alive := by
  rw [mem_newHearts_round, (reflects_afterRounds rounds heart).alive,
    (reflects_afterRounds _ heart).alive, answered_concat_zero, answered_concat_succ]
  tauto

/-- A heart is reported as failed exactly if it is alive no longer, so that reports of
a heart as new and as failed take turns. -/
theorem mem_failures_iff_falls (rounds : List (List String)) (answers : List String)
    (heart : String) :
    heart ∈ ((afterRounds rounds).round answers).1.failures ↔
      heart ∈ (afterRounds rounds).alive ∧ heart ∉ (afterRounds (rounds ++ [answers])).alive := by
  rw [mem_failures_round, (reflects_afterRounds rounds heart).alive,
    (reflects_afterRounds _ heart).alive, answered_concat_zero, answered_concat_succ]
  tauto

end ClusterHub.Liveness
