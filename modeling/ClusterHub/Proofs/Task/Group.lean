import ClusterHub.Task.Ledger

/-!
# Groups of an index

An index keeps a set of tasks under each key.  A key without a set counts as
one with the empty set, so the operations on an index are described by what
they do to membership.  An index is pruned if none of its sets is empty.
-/

namespace ClusterHub.Ledger

variable {κ : Type} [Ord κ] [Std.TransOrd κ]

/-- Every group of the index has a member. -/
def Pruned (index : Std.ExtTreeMap κ TaskSet) : Prop :=
  ∀ (key : κ) (group : TaskSet), index[key]? = some group → group ≠ ∅

theorem pruned_empty : Pruned (∅ : Std.ExtTreeMap κ TaskSet) := by
  intro key group found
  simp at found

variable [Std.LawfulEqOrd κ] {index : Std.ExtTreeMap κ TaskSet} {key other : κ}
  {id task : String}

theorem mem_joinGroup :
    task ∈ (joinGroup index key id).getD other ∅ ↔
      key = other ∧ id = task ∨ task ∈ index.getD other ∅ := by
  rw [joinGroup, Std.ExtTreeMap.getD_alter]
  by_cases equal : key = other
  · subst other
    simp [Std.ExtTreeMap.getD_eq_getD_getElem?]
  · simp [equal]

theorem mem_leaveGroup :
    task ∈ (leaveGroup index key id).getD other ∅ ↔
      task ∈ index.getD other ∅ ∧ ¬(key = other ∧ id = task) := by
  rw [leaveGroup, Std.ExtTreeMap.getD_modify]
  by_cases equal : key = other
  · subst other
    rw [Std.ExtTreeMap.getD_eq_getD_getElem?]
    cases found : index[key]? with
    | none => simp
    | some group => simp [and_comm]
  · simp [equal]

theorem mem_leaveAndPrune :
    task ∈ (leaveAndPrune index key id).getD other ∅ ↔
      task ∈ index.getD other ∅ ∧ ¬(key = other ∧ id = task) := by
  rw [leaveAndPrune, Std.ExtTreeMap.getD_alter]
  by_cases equal : key = other
  · subst other
    rw [Std.ExtTreeMap.getD_eq_getD_getElem?]
    cases found : index[key]? with
    | none => simp
    | some group =>
        have left : task ∈ group.erase id ↔ task ∈ group ∧ id ≠ task := by simp [and_comm]
        by_cases last : (group.erase id).isEmpty
        · have nobody : task ∉ group.erase id := by
            rw [Std.ExtTreeSet.isEmpty_iff.mp last]
            exact Std.ExtTreeSet.not_mem_empty
          rw [left] at nobody
          simpa [Option.filter_some, last] using nobody
        · have kept := (Bool.not_eq_true' _).mpr (Bool.eq_false_iff.mpr last)
          simpa only [Std.compare_self, ↓reduceIte, Option.map_some, Option.filter_some, kept,
            Option.getD_some, true_and] using left
  · simp [equal]

theorem Pruned.joinGroup (pruned : Pruned index) : Pruned (joinGroup index key id) := by
  intro other group found
  rw [Ledger.joinGroup, Std.ExtTreeMap.getElem?_alter] at found
  by_cases equal : key = other
  · have filled : (index[key]?.getD ∅).insert id = group := by simpa [equal] using found
    subst group
    exact Std.ExtTreeSet.insert_ne_empty
  · exact pruned other group (by simpa [equal] using found)

theorem Pruned.leaveAndPrune (pruned : Pruned index) :
    Pruned (leaveAndPrune index key id) := by
  intro other group found
  rw [Ledger.leaveAndPrune, Std.ExtTreeMap.getElem?_alter] at found
  by_cases equal : key = other
  · simp only [equal, Std.compare_self, if_true, Option.filter_eq_some_iff] at found
    simpa using found.2
  · exact pruned other group (by simpa [equal] using found)

end ClusterHub.Ledger
