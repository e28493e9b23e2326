import ClusterHub.Proofs.Fault
import ClusterHub.Proofs.Task.Life
import ClusterHub.Task.Report
import Mathlib.Data.List.Forall2

/-!
# The bodies of requests

A task keeps the body of the request that took it in for as long as it is known, whatever
else is said of it.  If it is forgotten and taken in again, it has the body of the new
request.  So the bodies that are handed out to be submitted again are those that were
taken in, in the order in which they are asked for.
-/

namespace ClusterHub.Ledger

variable {l : Ledger} {id other : String} {ids : List String} {body : Frame} {fault : Fault}
  {operation : Operation} {engine : EngineId} {queue : Option String} {now : Timestamp}

/-- The body of the request that took a task in. -/
def contentOf (l : Ledger) (id : String) : Option Frame := l.tasks[id]?.map TaskRecord.content

/-- The body that an operation brings with it. -/
def Operation.body? : Operation → Option Frame
  | .request _ _ _ content _ => some content
  | _ => none

theorem mem_tasks_of_contentOf (kept : l.contentOf id = some body) : id ∈ l.tasks := by
  rcases Option.map_eq_some_iff.mp kept with ⟨record, found, _⟩
  exact of_getElem?_eq_some found

theorem contentOf_of_unknown (unknown : id ∉ l.tasks) : l.contentOf id = none := by
  rw [contentOf, Std.ExtTreeMap.getElem?_eq_none unknown]
  rfl

theorem contentOf_modify (change : TaskRecord → TaskRecord)
    (keepsContent : ∀ record, (change record).content = record.content) :
    (l.tasks.modify other change)[id]?.map TaskRecord.content = l.contentOf id := by
  rw [contentOf, Std.ExtTreeMap.getElem?_modify]
  split
  · next same =>
      rw [← Std.LawfulEqCmp.eq_of_compare same, Option.map_map]
      exact congrArg (fun content => l.tasks[other]?.map content) (funext keepsContent)
  · rfl

theorem contentOf_assign : (l.assign other engine queue).contentOf id = l.contentOf id := by
  rw [contentOf, contentOf, getElem?_assign]
  split
  · next same =>
      subst same
      rw [Option.map_map]
      rfl
  · rfl

theorem contentOf_rebind (source : Option EngineId) :
    (l.rebind other source queue).contentOf id = l.contentOf id := by
  cases source with
  | none => rfl
  | some engine => exact contentOf_assign

theorem contentOf_saveRequest (header : RequestHeader) (lane : Lane) (source : Option EngineId)
    (content : Frame) :
    (l.saveRequest header lane source content now).2.contentOf id =
      if l.admits id (.request header lane source content now) then some content
      else l.contentOf id := by
  by_cases known : header.id ∈ l.tasks
  · simp [admits, saveRequest_of_known known]
  · by_cases same : header.id = id
    · subst same
      simp [admits, saveRequest, known, contentOf]
    · simp [admits, saveRequest, known, contentOf, Std.ExtTreeMap.getElem?_insert, same]

theorem contentOf_saveResult (header : ResultHeader) (source : Option EngineId) (result : Frame) :
    (l.saveResult header source result now).2.contentOf id = l.contentOf id := by
  have filled : ((l.rebind header.id source header.engine).tasks.modify header.id
      (TaskRecord.fill header result now))[id]?.map TaskRecord.content = l.contentOf id :=
    (contentOf_modify (TaskRecord.fill header result now) fun _ => rfl).trans
      (contentOf_rebind source)
  by_cases known : header.id ∈ l.tasks
  · by_cases pending : header.id ∈ l.pending
    · rw [saveResult_of_pending known pending]
      exact filled
    · rw [saveResult_of_completed known pending]
      exact filled
  · rw [saveResult_of_unknown known]
    rfl

theorem contentOf_saveDestination (task queue : String) (engine : EngineId) :
    (l.saveDestination task engine queue).2.contentOf id = l.contentOf id := by
  unfold saveDestination
  split
  · exact contentOf_assign
  · rfl

theorem contentOf_strandedSweep (engine : EngineId) (queue : String) :
    (l.strandedSweep engine queue now).2.contentOf id = l.contentOf id := by
  have swept : (l.strandedSweep engine queue now).2.tasks[id]? = _ := getElem?_strandAll id
  rw [contentOf, contentOf, swept]
  split
  · rw [Option.map_map]
    rfl
  · rfl

theorem contentOf_evict :
    (l.evict other).2.contentOf id = if other = id then none else l.contentOf id := by
  unfold evict
  split
  · next unknown =>
      split
      · next same =>
          subst same
          rw [contentOf, unknown]
          rfl
      · rfl
  · simp only [contentOf, Std.ExtTreeMap.getElem?_erase, Std.LawfulEqCmp.compare_eq_iff_eq]
    split <;> rfl

theorem contentOf_evictAll :
    (l.evictAll ids).2.contentOf id = if id ∈ ids then none else l.contentOf id := by
  rw [evictAll_eq_foldl]
  induction ids generalizing l with
  | nil => simp
  | cons first rest inductionHypothesis =>
      rw [List.foldl_cons, inductionHypothesis, contentOf_evict]
      by_cases same : first = id
      · simp [same]
      · simp [same, Ne.symm same]

/-- What an operation makes of the body of a task. -/
theorem contentOf_perform (id : String) (operation : Operation) :
    (l.perform operation).contentOf id =
      if id ∈ l.doomed operation then none
      else if l.admits id operation then operation.body?
      else l.contentOf id := by
  cases operation with
  | request header lane source content now => exact contentOf_saveRequest header lane source content
  | result header source result now => exact contentOf_saveResult header source result
  | destination task engine queue => exact contentOf_saveDestination task queue engine
  | sweep engine queue now => exact contentOf_strandedSweep engine queue
  | output task stream text => exact contentOf_modify _ fun _ => rfl
  | resubmission task now => exact contentOf_modify _ fun _ => rfl
  | purge ids =>
      rw [perform_purge]
      exact contentOf_evictAll
  | purgeEngines engines => exact contentOf_evictAll
  | purgeAll =>
      simp only [doomed, admits, Bool.false_eq_true, if_false, Std.ExtTreeMap.mem_keys]
      split
      · rfl
      · next unknown => exact (contentOf_of_unknown unknown).symm

/-- A task that has a body had it before, or was just taken in with it. -/
theorem contentOf_before (kept : (l.perform operation).contentOf id = some body) :
    l.contentOf id = some body ∨ l.admits id operation = true ∧ operation.body? = some body := by
  rw [contentOf_perform] at kept
  split at kept
  · contradiction
  · split at kept
    · next admitted => exact Or.inr ⟨admitted, kept⟩
    · exact Or.inl kept

/-- A task that has a body after operations that bring none had it before. -/
theorem contentOf_performAll {operations : List Operation}
    (none : ∀ operation ∈ operations, operation.body? = none)
    (kept : (l.performAll operations).contentOf id = some body) : l.contentOf id = some body := by
  have step : ∀ middle : Ledger, ∀ operation ∈ operations,
      (middle.contentOf id = some body → l.contentOf id = some body) →
      (middle.perform operation).contentOf id = some body → l.contentOf id = some body := by
    intro middle operation member earlier kept
    rcases contentOf_before kept with before | ⟨_, brought⟩
    · exact earlier before
    · rw [none operation member] at brought
      contradiction
  have back := @performAll_induction
    (fun after => after.contentOf id = some body → l.contentOf id = some body)
    operations step l fun kept => kept
  exact back kept

theorem Operation.body?_of_isQuiet (quiet : operation.isQuiet) : operation.body? = none := by
  cases operation <;> first | rfl | contradiction

/-! ## Tasks that are submitted again -/

theorem resubmittableBody_eq_ok_iff {task : String} :
    l.resubmittableBody id = .ok (task, body) ↔
      task = id ∧ l.contentOf id = some body ∧ id ∈ l.completed := by
  unfold resubmittableBody contentOf get? isCompleted
  rw [← Std.ExtTreeSet.contains_iff_mem]
  cases l.tasks[id]? with
  | none => simp
  | some record =>
      cases l.completed.contains id with
      | false => simp
      | true => simp [eq_comm]

/-- What stands in the way of submitting a task again. -/
def obstacle (l : Ledger) (id : String) : Fault :=
  if id ∈ l.tasks then .taskNotDone id else .unknownTask id

theorem resubmittableBody_eq_error_iff (filed : l.Filed) :
    l.resubmittableBody id = .error fault ↔ id ∉ l.completed ∧ fault = l.obstacle id := by
  unfold resubmittableBody get?
  cases found : l.tasks[id]? with
  | none =>
      have unfiled := filed.unfiled found
      simp only [obstacle, unfiled.not_mem_tasks, unfiled.completed, if_false, not_false_eq_true,
        true_and, Except.error.injEq]
      exact eq_comm
  | some record =>
      have known : id ∈ l.tasks := of_getElem?_eq_some found
      by_cases completed : id ∈ l.completed
      · simp [isCompleted, completed]
      · simp only [isCompleted, Std.ExtTreeSet.contains_iff_mem, completed, obstacle, known, if_false,
          if_true, not_false_eq_true, true_and, Except.error.injEq]
        exact eq_comm

/-- The first task that is not completed stands in the way of all. -/
theorem resubmittable_eq_error_iff (filed : l.Filed) : l.resubmittable ids = .error fault ↔
    ∃ id, IsFirst (· ∉ l.completed) ids id ∧ fault = l.obstacle id := by
  have fails : ∀ id, (∃ fault, l.resubmittableBody id = .error fault) ↔ id ∉ l.completed := by
    simp [resubmittableBody_eq_error_iff filed]
  rw [resubmittable, Fault.mapM_eq_error_iff]
  apply exists_congr
  intro id
  rw [isFirst_congr fails, resubmittableBody_eq_error_iff filed]
  apply and_congr_right
  intro first
  exact and_iff_right first.holds

/-- Completed tasks are handed out with their bodies, in the order in which they are asked
for. -/
theorem exists_resubmittable (filed : l.Filed) (completed : ∀ id ∈ ids, id ∈ l.completed) :
    ∃ tasks, l.resubmittable ids = .ok tasks ∧
      List.Forall₂ (fun id task => task.1 = id ∧ l.contentOf id = some task.2) ids tasks := by
  cases outcome : l.resubmittable ids with
  | error fault =>
      rcases (resubmittable_eq_error_iff filed).mp outcome with ⟨id, first, _⟩
      exact absurd (completed id first.mem) first.holds
  | ok tasks =>
      apply Exists.intro tasks
      constructor
      · rfl
      · apply (Fault.mapM_eq_ok_iff.mp outcome).imp
        rintro id ⟨task, body⟩ found
        rcases resubmittableBody_eq_ok_iff.mp found with ⟨same, kept, _⟩
        exact ⟨same, kept⟩

/-- Nothing is changed but the times at which some tasks were last submitted again. -/
structure Marks (before after : Ledger) (ids : List String) (now : Timestamp) : Prop where
  rest : after = { before with tasks := after.tasks }
  tasks : ∀ id, after.tasks[id]? = before.tasks[id]?.map fun record =>
    if id ∈ ids then { record with resubmitted := some now } else record

theorem marks_performAll (ids : List String) (now : Timestamp) (l : Ledger) :
    Marks l (l.performAll (ids.map fun id => .resubmission id now)) ids now := by
  induction ids generalizing l with
  | nil =>
      constructor
      · rfl
      · intro id
        exact Option.map_id'.symm
  | cons first rest inductionHypothesis =>
      have later := inductionHypothesis (l.markResubmitted first now)
      constructor
      · exact later.rest
      · intro id
        apply (later.tasks id).trans
        rw [markResubmitted, modifyTask, Std.ExtTreeMap.getElem?_modify]
        by_cases same : first = id
        · subst same
          simp only [Std.compare_self, if_true, Option.map_map, List.mem_cons, true_or]
          apply congrArg (fun change => l.tasks[first]?.map change)
          funext record
          simp only [Function.comp_apply]
          split <;> rfl
        · simp only [Std.LawfulEqCmp.compare_eq_iff_eq, same, if_false, List.mem_cons,
            Ne.symm same, false_or]

end ClusterHub.Ledger
