import ClusterHub.Task.Ledger

/-!
# Taking in results

A result is taken in by steps: its task is taken out of the unassigned ones and
bound to the engine that is named, the record is filled in, and a task that was
pending becomes completed.  Which of these steps are made depends on the task
alone, so there is one equation for each of the three ways in which a result is
taken in.
-/

namespace ClusterHub

/-- A record with what a result says. -/
def TaskRecord.fill (header : ResultHeader) (result : Frame) (now : Timestamp)
    (record : TaskRecord) : TaskRecord :=
  { record with
    started := header.started.or record.started
    completed := some (header.completed.getD now)
    result
    stranded := false }

namespace Ledger

variable {l : Ledger} {id : String} {engine : EngineId} {queue : Option String}

@[simp]
theorem assign_pending : (l.assign id engine queue).pending = l.pending := by
  unfold assign
  split <;> rfl

@[simp]
theorem assign_completed : (l.assign id engine queue).completed = l.completed := by
  unfold assign
  split <;> rfl

@[simp]
theorem assign_unassigned : (l.assign id engine queue).unassigned = l.unassigned := by
  unfold assign
  split <;> rfl

@[simp]
theorem assign_byClient : (l.assign id engine queue).byClient = l.byClient := by
  unfold assign
  split <;> rfl

@[simp]
theorem size_assign : (l.assign id engine queue).tasks.size = l.tasks.size := by
  unfold assign
  cases found : l.tasks[id]? with
  | none => rfl
  | some record =>
      have known : id ∈ l.tasks := of_getElem?_eq_some found
      simp [Std.ExtTreeMap.size_insert, known]

theorem getElem?_assign (other : String) :
    (l.assign id engine queue).tasks[other]? =
      if id = other then l.tasks[id]?.map fun record =>
        { record with engine := some engine, engineQueue := queue.or record.engineQueue }
      else l.tasks[other]? := by
  unfold assign
  split
  · next unknown =>
      by_cases equal : id = other
      · subst other
        simp [unknown]
      · simp [equal]
  · next record found => simp [Std.ExtTreeMap.getElem?_insert, found]

/-- A ledger that is about to take in a result: the task is no longer unassigned,
and bound to the engine that the result names. -/
def rebind (l : Ledger) (id : String) (engine : Option EngineId) (queue : Option String) :
    Ledger :=
  match engine with
  | some engine => { l with unassigned := l.unassigned.erase id }.assign id engine queue
  | none => { l with unassigned := l.unassigned.erase id }

variable {source : Option EngineId}

@[simp]
theorem rebind_pending : (l.rebind id source queue).pending = l.pending := by
  cases source <;> simp [rebind]

@[simp]
theorem rebind_completed : (l.rebind id source queue).completed = l.completed := by
  cases source <;> simp [rebind]

@[simp]
theorem rebind_unassigned :
    (l.rebind id source queue).unassigned = l.unassigned.erase id := by
  cases source <;> simp [rebind]

@[simp]
theorem rebind_byClient : (l.rebind id source queue).byClient = l.byClient := by
  cases source <;> simp [rebind]

@[simp]
theorem size_rebind : (l.rebind id source queue).tasks.size = l.tasks.size := by
  cases source <;> simp [rebind]

theorem getElem?_rebind_of_ne {other : String} (different : id ≠ other) :
    (l.rebind id source queue).tasks[other]? = l.tasks[other]? := by
  cases source <;> simp [rebind, getElem?_assign, different]

@[simp]
theorem mem_tasks_rebind {other : String} :
    other ∈ (l.rebind id source queue).tasks ↔ other ∈ l.tasks := by
  rw [Std.ExtTreeMap.mem_iff_isSome_getElem?, Std.ExtTreeMap.mem_iff_isSome_getElem?]
  by_cases equal : id = other
  · subst other
    cases source with
    | none => rfl
    | some engine => rw [rebind, getElem?_assign, if_pos rfl, Option.isSome_map]
  · rw [getElem?_rebind_of_ne equal]

/-! ## The three ways of taking in a result -/

variable {header : ResultHeader} {result : Frame} {now : Timestamp}

theorem saveResult_of_unknown (unknown : header.id ∉ l.tasks) :
    l.saveResult header source result now =
      (.unknown, { l with unassigned := l.unassigned.erase header.id }) := by
  simp [saveResult, unknown]

theorem saveResult_of_pending (known : header.id ∈ l.tasks) (pending : header.id ∈ l.pending) :
    l.saveResult header source result now =
      let bound := l.rebind header.id source header.engine
      (.completed, { bound with
        tasks := bound.tasks.modify header.id (TaskRecord.fill header result now)
        pending := l.pending.erase header.id
        completed := l.completed.insert header.id }) := by
  cases source <;> simp [saveResult, rebind, known, pending] <;> rfl

theorem saveResult_of_completed (known : header.id ∈ l.tasks)
    (completed : header.id ∉ l.pending) :
    l.saveResult header source result now =
      (.late, (l.rebind header.id source header.engine).modifyTask header.id
        (TaskRecord.fill header result now)) := by
  cases source <;> simp [saveResult, rebind, known, completed] <;> rfl

end Ledger

end ClusterHub
