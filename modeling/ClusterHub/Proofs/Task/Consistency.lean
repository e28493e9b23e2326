import ClusterHub.Proofs.Collections
import ClusterHub.Proofs.Task.Filing
import ClusterHub.Proofs.Task.Operation

/-!
# Consistency of the ledger

The sets and indexes of a ledger repeat what its records say.  Every operation
keeps them in step with the records, so every history that starts from an empty
ledger ends in a consistent one.
-/

namespace ClusterHub

/-- Whether a task is to be bound to an engine by the scheduler. -/
def TaskRecord.awaitsEngine (record : TaskRecord) : Bool :=
  record.lane = .scheduled && record.engine = none

namespace Ledger

/-- The records and all sets agree. -/
structure Consistent (l : Ledger) : Prop extends Filed l where
  /-- The unassigned tasks are the pending scheduled ones without an engine. -/
  unassigned : ∀ id, id ∈ l.unassigned ↔
    id ∈ l.pending ∧ l.tasks[id]?.any TaskRecord.awaitsEngine

theorem consistent_empty : Consistent {} := by
  constructor
  · constructor <;> simp [clientGroup, engineGroup, pruned_empty]
  · simp

variable {l : Ledger}

/-- Tasks that are not pending are not among those without an engine. -/
theorem Consistent.erase_unassigned (consistent : l.Consistent) {id : String}
    (settled : id ∉ l.pending) : l.unassigned.erase id = l.unassigned :=
  erase_of_not_mem fun member => settled ((consistent.unassigned id).mp member).1

theorem Consistent.saveRequest (consistent : l.Consistent) (header : RequestHeader) (lane : Lane)
    (engine : Option EngineId) (content : Frame) (now : Timestamp) :
    (l.saveRequest header lane engine content now).2.Consistent := by
  constructor
  · exact consistent.toFiled.saveRequest header lane engine content now
  · intro id
    have unassigned := consistent.unassigned id
    unfold Ledger.saveRequest
    split
    · exact unassigned
    · next unknown =>
        by_cases same : header.id = id
        · subst same
          have absent : l.tasks[header.id]? = none := by simpa using unknown
          have before : header.id ∉ l.unassigned := by
            rw [unassigned, absent]
            exact fun both => Bool.false_ne_true both.2
          by_cases awaits : engine = none ∧ lane = .scheduled
          · simp [awaits, TaskRecord.awaitsEngine]
          · have settled : ¬(lane = .scheduled ∧ engine = none) := fun both => awaits both.symm
            simp [awaits, before, TaskRecord.awaitsEngine, settled]
        · by_cases awaits : engine = none ∧ lane = .scheduled
          · simp [awaits, same, unassigned, Std.ExtTreeMap.getElem?_insert]
          · simp [awaits, same, unassigned, Std.ExtTreeMap.getElem?_insert]

/-- Binding a task takes it out of the unassigned ones. -/
theorem Consistent.bindTo (consistent : l.Consistent) (id : String) (engine : EngineId)
    (queue : Option String) (found : id ∈ l.tasks) :
    Consistent ({ l with unassigned := l.unassigned.erase id }.assign id engine queue) := by
  constructor
  · have filed : Filed { l with unassigned := l.unassigned.erase id } := {
      consistent.toFiled with }
    exact filed.assign id engine queue
  · intro other
    have unassigned := consistent.unassigned other
    rw [Ledger.assign, Std.ExtTreeMap.getElem?_eq_some_getElem found]
    by_cases equal : id = other
    · subst other
      simp [TaskRecord.awaitsEngine]
    · simp [equal, unassigned, Std.ExtTreeMap.getElem?_insert]

theorem Consistent.saveResult (consistent : l.Consistent) (header : ResultHeader)
    (engine : Option EngineId) (result : Frame) (now : Timestamp) :
    (l.saveResult header engine result now).2.Consistent := by
  have bound := consistent.toFiled.rebind header.id engine header.engine
  by_cases known : header.id ∈ l.tasks
  · by_cases pending : header.id ∈ l.pending
    · rw [saveResult_of_pending known pending]
      constructor
      · have completed := bound.complete (TaskRecord.fill header result now)
          (mem_tasks_rebind.mpr known)
          (fun _ => rfl) (fun _ => rfl) (fun _ => rfl) (fun _ => rfl) (fun _ => nofun)
        simpa using completed
      · intro other
        have unassigned := consistent.unassigned other
        by_cases equal : header.id = other
        · subst other
          simp
        · simp [Std.ExtTreeMap.getElem?_modify, equal, getElem?_rebind_of_ne equal, unassigned]
    · rw [saveResult_of_completed known pending]
      constructor
      · refine bound.modifyTask (fun _ => rfl) (fun _ => rfl) (fun _ => rfl) ?_ (fun _ => nofun)
        intro record found
        have completed : header.id ∈ l.completed :=
          ((consistent.known header.id).mp known).resolve_left pending
        have before := (bound.completedAt found).mpr (by simpa using completed)
        exact before.symm
      · intro other
        have unassigned := consistent.unassigned other
        by_cases equal : header.id = other
        · subst other
          simp [modifyTask, pending]
        · simp [modifyTask, Std.ExtTreeMap.getElem?_modify, equal, getElem?_rebind_of_ne equal,
            unassigned]
  · rw [saveResult_of_unknown known]
    constructor
    · exact { consistent.toFiled with }
    · intro other
      have pending : header.id ∉ l.pending := fun pending =>
        known ((consistent.known header.id).mpr (Or.inl pending))
      rw [Std.ExtTreeSet.mem_erase, consistent.unassigned other]
      apply and_iff_right_of_imp
      rintro ⟨waits, _⟩ same
      cases Std.LawfulEqCmp.eq_of_compare same
      exact pending waits

theorem Consistent.saveDestination (consistent : l.Consistent) (id : String)
    (engine : EngineId) (queue : String) :
    (l.saveDestination id engine queue).2.Consistent := by
  unfold Ledger.saveDestination
  split
  · next known => exact consistent.bindTo id engine (some queue) (by simpa using known)
  · exact consistent

/-- Notes that are made on a record do not concern the sets. -/
theorem Consistent.modifyTask (consistent : l.Consistent) {id : String}
    {change : TaskRecord → TaskRecord}
    (keepsId : ∀ record, (change record).id = record.id)
    (keepsClient : ∀ record, (change record).client = record.client)
    (keepsLane : ∀ record, (change record).lane = record.lane)
    (keepsEngine : ∀ record, (change record).engine = record.engine)
    (keepsCompletion : ∀ record, (change record).completed = record.completed)
    (keepsResult : ∀ record, (change record).result = record.result)
    (keepsStranded : ∀ record, (change record).stranded = record.stranded) :
    (l.modifyTask id change).Consistent := by
  constructor
  · exact consistent.toFiled.modifyTask keepsId keepsClient keepsEngine
      (fun record _ => by rw [keepsCompletion]) (fun record => by
        rw [keepsStranded, keepsResult]
        exact fun stranded => ⟨stranded, rfl⟩)
  · intro other
    have unassigned := consistent.unassigned other
    unfold Ledger.modifyTask
    by_cases same : id = other
    · subst same
      have awaits : ∀ record, (change record).awaitsEngine = record.awaitsEngine := fun record => by
        rw [TaskRecord.awaitsEngine, keepsLane, keepsEngine, TaskRecord.awaitsEngine]
      cases found : l.tasks[id]? <;> simp [unassigned, found, awaits]
    · simp [same, unassigned, Std.ExtTreeMap.getElem?_modify]

theorem Consistent.appendOutput (consistent : l.Consistent) (id stream text : String) :
    (l.appendOutput id stream text).2.Consistent :=
  consistent.modifyTask (fun _ => rfl) (fun _ => rfl) (fun _ => rfl) (fun _ => rfl)
    (fun _ => rfl) (fun _ => rfl) (fun _ => rfl)

theorem Consistent.markResubmitted (consistent : l.Consistent) (id : String)
    (now : Timestamp) : (l.markResubmitted id now).Consistent :=
  consistent.modifyTask (fun _ => rfl) (fun _ => rfl) (fun _ => rfl) (fun _ => rfl)
    (fun _ => rfl) (fun _ => rfl) (fun _ => rfl)

/-- Stranding keeps a ledger consistent if the task is bound to an engine, for
then it is not unassigned. -/
theorem Consistent.strand (consistent : l.Consistent) {id : String} (queue : String)
    (now : Timestamp) (bound : (l.tasks[id]?.bind TaskRecord.engine).isSome) :
    (l.strand queue now id).Consistent := by
  have known : id ∈ l.tasks := by
    rw [Std.ExtTreeMap.mem_iff_isSome_getElem?]
    exact Option.isSome_of_isSome_bind bound
  constructor
  · exact consistent.toFiled.complete _ known (fun _ => rfl) (fun _ => rfl) (fun _ => rfl)
      (fun _ => rfl) (fun _ _ => rfl)
  · intro other
    have unassigned := consistent.unassigned other
    by_cases equal : id = other
    · subst other
      have engaged : l.tasks[id]?.any TaskRecord.awaitsEngine = false := by
        cases found : l.tasks[id]? with
        | none => rfl
        | some record =>
            rw [found, Option.bind_some] at bound
            have engaged := Option.isSome_iff_ne_none.mp bound
            simp [TaskRecord.awaitsEngine, engaged]
      simp [Ledger.strand, unassigned, engaged]
    · simp [Ledger.strand, Std.ExtTreeMap.getElem?_modify, equal, unassigned]

@[simp]
theorem bind_engine_strand {id other queue : String} {now : Timestamp} :
    (l.strand queue now id).tasks[other]?.bind TaskRecord.engine =
      l.tasks[other]?.bind TaskRecord.engine := by
  rw [Ledger.strand, Std.ExtTreeMap.getElem?_modify]
  cases found : l.tasks[other]? <;> by_cases equal : id = other <;> simp [equal, found]

theorem Consistent.strandAll (consistent : l.Consistent) {ids : List String} {queue : String}
    {now : Timestamp} (bound : ∀ id ∈ ids, (l.tasks[id]?.bind TaskRecord.engine).isSome) :
    (ids.foldl (Ledger.strand queue now) l).Consistent := by
  induction ids generalizing l with
  | nil => exact consistent
  | cons id ids inductionHypothesis =>
      have first := consistent.strand queue now (bound id List.mem_cons_self)
      apply inductionHypothesis first
      intro other member
      rw [bind_engine_strand]
      exact bound other (List.mem_cons_of_mem id member)

theorem Consistent.strandedSweep (consistent : l.Consistent) (engine : EngineId)
    (queue : String) (now : Timestamp) :
    (l.strandedSweep engine queue now).2.Consistent := by
  apply consistent.strandAll
  intro id member
  have grouped : id ∈ l.engineGroup engine := by
    have both := Std.ExtTreeSet.mem_toList.mp member
    exact (Std.ExtTreeSet.mem_inter_iff.mp both).1
  rw [(consistent.byEngine engine id).mp grouped]
  rfl

/-! ## Forgetting -/

theorem Consistent.evict (consistent : l.Consistent) (id : String) :
    (l.evict id).2.Consistent := by
  constructor
  · exact consistent.toFiled.evict id
  · intro other
    have unassigned := consistent.unassigned other
    unfold Ledger.evict
    split
    · exact unassigned
    · by_cases same : id = other
      · simp [same]
      · simp [same, unassigned, Std.ExtTreeMap.getElem?_erase]

/-- Evicting a list of tasks is evicting one after the other. -/
theorem evictAll_eq_foldl (ids : List String) :
    (l.evictAll ids).2 = ids.foldl (fun l id => (l.evict id).2) l := by
  unfold Ledger.evictAll
  generalize 0 = count
  induction ids generalizing l count with
  | nil => rfl
  | cons id ids inductionHypothesis => exact inductionHypothesis _

theorem Consistent.evictAll (consistent : l.Consistent) (ids : List String) :
    (l.evictAll ids).2.Consistent := by
  rw [evictAll_eq_foldl]
  induction ids generalizing l with
  | nil => exact consistent
  | cons id ids inductionHypothesis => exact inductionHypothesis (consistent.evict id)

theorem Consistent.perform (consistent : l.Consistent) (operation : Operation) :
    (l.perform operation).Consistent := by
  cases operation with
  | request header lane engine content now =>
      exact consistent.saveRequest header lane engine content now
  | result header engine result now => exact consistent.saveResult header engine result now
  | destination id engine queue => exact consistent.saveDestination id engine queue
  | sweep engine queue now => exact consistent.strandedSweep engine queue now
  | output id stream text => exact consistent.appendOutput id stream text
  | resubmission id now => exact consistent.markResubmitted id now
  | purge ids =>
      simp only [Ledger.perform, Ledger.purge]
      cases ids.find? fun id => l.pending.contains id with
      | some id => exact consistent
      | none => exact consistent.evictAll ids
  | purgeEngines engines => exact consistent.evictAll _
  | purgeAll => exact consistent_empty

theorem Consistent.performAll (consistent : l.Consistent) (history : List Operation) :
    (l.performAll history).Consistent :=
  performAll_induction (fun _ operation _ kept => kept.perform operation) consistent

/-- Whatever is asked of a ledger that was empty at first, its sets and indexes
agree with its records. -/
theorem consistent_performAll (history : List Operation) :
    (performAll {} history).Consistent :=
  consistent_empty.performAll history

theorem IsReached.consistent (reached : l.IsReached) : l.Consistent := by
  rcases reached with ⟨history, rfl⟩
  exact consistent_empty.performAll history

end Ledger

end ClusterHub
