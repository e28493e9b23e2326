import ClusterHub.Proofs.Task.Stranding
import ClusterHub.Task.Report
import Mathlib

/-!
# The load of engines

Three reports tell how much engines have to do: the load by lane, the state of the
queues, and the list of the engines that are busy.  Each follows the index by engine.
Here the tasks are counted by what their records say, which all three reports agree
with.  A pending task that no engine is charged with is unassigned or was sent straight
to nobody, so that none is left out of the sum.
-/

namespace ClusterHub.Ledger

variable {l : Ledger} {id : String} {ids : List String} {engine : EngineId} {lane : Lane}
  {record : TaskRecord} {property other : String → Prop}

/-- Whether a list has the tasks with a property, each once and in ascending order. -/
structure Enumerates (ids : List String) (property : String → Prop) : Prop where
  sorted : ids.Pairwise (· < ·)
  mem : ∀ id, id ∈ ids ↔ property id

theorem ncard_of_nodup (nodup : ids.Nodup) (mem : ∀ id, id ∈ ids ↔ property id) :
    {id | property id}.ncard = ids.length := by
  have same : {id | property id} = (ids.toFinset : Set String) := by
    ext id
    simp [mem]
  rw [same, Set.ncard_coe_finset, List.toFinset_card_of_nodup nodup]

theorem Enumerates.nodup (enumerates : Enumerates ids property) : ids.Nodup :=
  enumerates.sorted.imp fun less => less.ne

theorem Enumerates.ncard (enumerates : Enumerates ids property) :
    {id | property id}.ncard = ids.length :=
  ncard_of_nodup enumerates.nodup enumerates.mem

theorem Enumerates.congr (enumerates : Enumerates ids property)
    (same : ∀ id, property id ↔ other id) : Enumerates ids other where
  sorted := enumerates.sorted
  mem id := (enumerates.mem id).trans (same id)

/-- Whether a task is pending on a lane, and put down to the engine that is given, if
any is. -/
def IsQueued (l : Ledger) (lane : Lane) (source : Option EngineId) (id : String) : Prop :=
  id ∈ l.pending ∧ ∃ record, l.tasks[id]? = some record ∧ record.lane = lane ∧ record.engine = source

theorem engineGroup_of_found {group : TaskSet} (found : l.byEngine[engine]? = some group) :
    l.engineGroup engine = group := by
  rw [engineGroup, Std.ExtTreeMap.getD_eq_getD_getElem?, found]
  rfl

theorem engineGroup_of_absent (absent : l.byEngine[engine]? = none) :
    l.engineGroup engine = ∅ := by
  rw [engineGroup, Std.ExtTreeMap.getD_eq_getD_getElem?, absent]
  rfl

/-- A pending task is on one lane, and put down to one engine at most. -/
theorem IsQueued.unique {otherLane : Lane} {source target : Option EngineId}
    (queued : l.IsQueued lane source id) (also : l.IsQueued otherLane target id) :
    lane = otherLane ∧ source = target := by
  rcases queued with ⟨_, record, found, rfl, rfl⟩
  rcases also with ⟨_, other, otherFound, rfl, rfl⟩
  cases found.symm.trans otherFound
  exact ⟨rfl, rfl⟩

section Filed

variable (filed : l.Filed)
include filed

/-- The outstanding tasks of all engines, engine by engine. -/
def outstanding (l : Ledger) : List String :=
  l.byEngine.toList.flatMap fun entry => (entry.2 ∩ l.pending).toList

theorem Filed.mem_outstanding : id ∈ l.outstanding ↔ ∃ engine, l.IsOutstanding engine id := by
  simp only [outstanding, List.mem_flatMap, Prod.exists, Std.ExtTreeSet.mem_toList,
    Std.ExtTreeSet.mem_inter_iff, Std.ExtTreeMap.mem_toList_iff_getElem?_eq_some, IsOutstanding,
    engineOf]
  apply exists_congr
  intro engine
  rw [← filed.byEngine engine id]
  cases found : l.byEngine[engine]? with
  | none => simp [engineGroup_of_absent found]
  | some group => simp [engineGroup_of_found found, and_comm]

end Filed

end ClusterHub.Ledger
