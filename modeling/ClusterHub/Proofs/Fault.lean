import ClusterHub.Fault
import ClusterHub.Proofs.Collections
import Mathlib.Data.List.Forall2

/-!
# Steps that can fail

A step that follows another is taken exactly if the one before it succeeded.  A list is
gone through element by element, and the first that fails is the fault of the whole
list.
-/

namespace ClusterHub.Fault

variable {α β : Type} {fault : Fault}

/-- The next step is taken exactly if the one before it succeeded. -/
theorem bind_eq_ok_iff {first : Except Fault α} {next : α → Except Fault β} {result : β} :
    first >>= next = .ok result ↔ ∃ value, first = .ok value ∧ next value = .ok result := by
  cases first with
  | error fault => simp [bind, Except.bind]
  | ok value => simp [bind, Except.bind]

theorem bind_eq_error_iff {first : Except Fault α} {next : α → Except Fault β} :
    first >>= next = .error fault ↔
      first = .error fault ∨ ∃ value, first = .ok value ∧ next value = .error fault := by
  cases first with
  | error other => simp [bind, Except.bind]
  | ok value => simp [bind, Except.bind]

theorem toOption_eq_some_iff {outcome : Except Fault α} {value : α} :
    outcome.toOption = some value ↔ outcome = .ok value := by
  cases outcome <;> simp [Except.toOption]

variable {act : α → Except Fault β} {values : List α} {results : List β}

/-- A list fails for the first of its elements that does. -/
theorem mapM_eq_error_iff : values.mapM act = .error fault ↔
    ∃ value, IsFirst (fun value => ∃ fault, act value = .error fault) values value ∧
      act value = .error fault := by
  induction values with
  | nil => simp [not_isFirst_nil, pure, Except.pure]
  | cons value rest inductionHypothesis =>
      simp only [List.mapM_cons, bind_eq_error_iff, inductionHypothesis, isFirst_cons]
      constructor
      · rintro (failed | ⟨result, done, ⟨other, first, failed⟩ | ⟨_, _, failed⟩⟩)
        · exact ⟨value, Or.inl ⟨⟨fault, failed⟩, rfl⟩, failed⟩
        · have succeeds : ¬ ∃ fault, act value = .error fault := by simp [done]
          exact ⟨other, Or.inr ⟨succeeds, first⟩, failed⟩
        · contradiction
      · rintro ⟨other, ⟨_, rfl⟩ | ⟨succeeds, first⟩, failed⟩
        · exact Or.inl failed
        · cases done : act value with
          | error fault => exact absurd ⟨fault, done⟩ succeeds
          | ok result => exact Or.inr ⟨result, rfl, Or.inl ⟨other, first, failed⟩⟩

/-- A list fails for one of its elements. -/
theorem exists_of_mapM_eq_error (failed : values.mapM act = .error fault) :
    ∃ value ∈ values, act value = .error fault := by
  rcases mapM_eq_error_iff.mp failed with ⟨value, first, failed⟩
  exact ⟨value, first.mem, failed⟩

/-- A list succeeds with the results of its elements, one by one. -/
theorem mapM_eq_ok_iff : values.mapM act = .ok results ↔
    List.Forall₂ (fun value result => act value = .ok result) values results := by
  induction values generalizing results with
  | nil =>
      constructor
      · rintro ⟨⟩
        exact .nil
      · rintro ⟨⟩
        rfl
  | cons value rest inductionHypothesis =>
      simp only [List.mapM_cons, bind_eq_ok_iff, inductionHypothesis]
      constructor
      · rintro ⟨first, done, others, remaining, same⟩
        cases same
        exact .cons done remaining
      · rintro (_ | ⟨done, remaining⟩)
        exact ⟨_, done, _, remaining, rfl⟩

end ClusterHub.Fault
