import ClusterHub.Proofs.Task.Stranding

/-!
# The progress of a task

What a ledger says of one task comes to little: whether it is pending, and the
result that it has.  Each operation forgets the task, takes it in, puts a
result in the place of the one it has, or leaves it as it is.
-/

namespace ClusterHub.Ledger

/-- How far a task has come. -/
structure Progress where
  pending : Bool
  result : Frame
  /-- Whether the result was made up because the engine died. -/
  stranded : Bool
deriving DecidableEq

namespace Progress

/-- A task that was just taken in. -/
def new : Progress := ⟨true, .empty, false⟩

/-- A task that was given a result, if one is given. -/
def after (progress : Progress) : Option (Frame × Bool) → Progress
  | none => progress
  | some (result, stranded) => ⟨false, result, stranded⟩

end Progress

/-- How far a task has come, if it is known. -/
def progress (l : Ledger) (id : String) : Option Progress :=
  l.tasks[id]?.map fun record => ⟨l.pending.contains id, record.result, record.stranded⟩

/-- Whether an operation takes a task in. -/
def admits (l : Ledger) (id : String) : Operation → Bool
  | .request header lane engine content now =>
      header.id = id && (l.saveRequest header lane engine content now).1
  | _ => false

/-- The result that an operation gives a known task, and whether it is made
up. -/
def hit (l : Ledger) (id : String) : Operation → Option (Frame × Bool)
  | .result header _ result _ => if header.id = id then some (result, false) else none
  | .sweep engine queue now =>
      if id ∈ (l.strandedSweep engine queue now).1 then some (strandedResult id, true) else none
  | _ => none

/-- The tasks that an operation forgets, if they are known. -/
def doomed (l : Ledger) : Operation → List String
  | .purge ids =>
      match ids.find? fun id => l.pending.contains id with
      | some _ => []
      | none => ids
  | .purgeEngines engines =>
      engines.flatMap fun engine => (l.engineGroup engine ∩ l.completed).toList
  | .purgeAll => l.tasks.keys
  | _ => []

variable {l after : Ledger} {id other : String} {operation : Operation} {record : TaskRecord}

theorem progress_eq_none_iff : l.progress id = none ↔ id ∉ l.tasks := by
  rw [progress, Option.map_eq_none_iff, Std.ExtTreeMap.mem_iff_isSome_getElem?,
    Option.not_isSome_iff_eq_none]

theorem progress_of_found (found : l.tasks[id]? = some record) :
    l.progress id = some ⟨l.pending.contains id, record.result, record.stranded⟩ := by
  rw [progress, found]
  rfl

theorem progress_of_completed (record : TaskRecord) (found : l.tasks[id]? = some record)
    (completed : id ∉ l.pending) :
    l.progress id = some ⟨false, record.result, record.stranded⟩ := by
  have silent : l.pending.contains id = false := by
    rw [← Bool.not_eq_true, Std.ExtTreeSet.contains_iff_mem]
    exact completed
  rw [progress_of_found found, silent]

/-- Nothing comes of an operation that changes neither what the record says of
the result nor whether the task is pending. -/
theorem progress_of_note {change : TaskRecord → TaskRecord}
    (noted : after.tasks[id]? = l.tasks[id]?.map change)
    (pending : id ∈ after.pending ↔ id ∈ l.pending)
    (keepsResult : ∀ record, (change record).result = record.result)
    (keepsStranded : ∀ record, (change record).stranded = record.stranded) :
    after.progress id = l.progress id := by
  have same : after.pending.contains id = l.pending.contains id := by
    rw [Bool.eq_iff_iff, Std.ExtTreeSet.contains_iff_mem, Std.ExtTreeSet.contains_iff_mem, pending]
  rw [progress, noted, same]
  cases found : l.tasks[id]? with
  | none =>
      rw [progress, found]
      rfl
  | some record =>
      rw [progress_of_found found, Option.map_some, Option.map_some, keepsResult, keepsStranded]

theorem progress_of_same (found : after.tasks[id]? = l.tasks[id]?)
    (pending : id ∈ after.pending ↔ id ∈ l.pending) : after.progress id = l.progress id := by
  have noted : after.tasks[id]? = l.tasks[id]?.map fun record => record :=
    found.trans Option.map_id'.symm
  exact progress_of_note noted pending (fun _ => rfl) fun _ => rfl

theorem progress_modifyTask {change : TaskRecord → TaskRecord}
    (keepsResult : ∀ record, (change record).result = record.result)
    (keepsStranded : ∀ record, (change record).stranded = record.stranded) :
    (l.modifyTask other change).progress id = l.progress id := by
  by_cases same : other = id
  · subst other
    exact progress_of_note (by simp [modifyTask]) Iff.rfl keepsResult keepsStranded
  · exact progress_of_same (by simp [modifyTask, Std.ExtTreeMap.getElem?_modify, same]) Iff.rfl

theorem progress_assign (engine : EngineId) (queue : Option String) :
    (l.assign other engine queue).progress id = l.progress id := by
  by_cases same : other = id
  · subst other
    exact progress_of_note ((getElem?_assign _).trans (if_pos rfl)) (by rw [assign_pending])
      (fun _ => rfl) fun _ => rfl
  · exact progress_of_same ((getElem?_assign id).trans (if_neg same)) (by rw [assign_pending])

theorem saveRequest_of_known {header : RequestHeader} {lane : Lane} {engine : Option EngineId}
    {content : Frame} {now : Timestamp} (known : header.id ∈ l.tasks) :
    l.saveRequest header lane engine content now = (false, l) := by
  simp [saveRequest, known]

theorem progress_saveRequest (header : RequestHeader) (lane : Lane) (engine : Option EngineId)
    (content : Frame) (now : Timestamp) :
    (l.saveRequest header lane engine content now).2.progress id =
      if l.admits id (.request header lane engine content now) then some .new
      else l.progress id := by
  by_cases known : header.id ∈ l.tasks
  · simp [admits, saveRequest_of_known known]
  · by_cases same : header.id = id
    · subst id
      simp [admits, saveRequest, known, progress, Progress.new]
    · simp only [admits, same, decide_false, Bool.false_and, Bool.false_eq_true, if_false]
      apply progress_of_same
      · simp [saveRequest, known, Std.ExtTreeMap.getElem?_insert, same]
      · simp [saveRequest, known, same]

theorem progress_fill_of_ne {header : ResultHeader} {engine : Option EngineId} {result : Frame}
    {now : Timestamp} (different : header.id ≠ id) :
    (l.saveResult header engine result now).2.progress id = l.progress id := by
  by_cases known : header.id ∈ l.tasks
  · by_cases pending : header.id ∈ l.pending
    · rw [saveResult_of_pending known pending]
      apply progress_of_same
      · simp [Std.ExtTreeMap.getElem?_modify, different, getElem?_rebind_of_ne different]
      · simp [different]
    · rw [saveResult_of_completed known pending]
      apply progress_of_same
      · simp [modifyTask, Std.ExtTreeMap.getElem?_modify, different,
          getElem?_rebind_of_ne different]
      · simp [modifyTask]
  · rw [saveResult_of_unknown known]
    rfl

/-- A task that is known has the result that was saved, and is no longer
pending. -/
theorem progress_saveResult_self {header : ResultHeader} {engine : Option EngineId}
    {result : Frame} {now : Timestamp} (known : header.id ∈ l.tasks) :
    (l.saveResult header engine result now).2.progress header.id =
      some ⟨false, result, false⟩ := by
  have bound : header.id ∈ (l.rebind header.id engine header.engine).tasks :=
    mem_tasks_rebind.mpr known
  obtain ⟨record, found⟩ := Option.isSome_iff_exists.mp
    (Std.ExtTreeMap.mem_iff_isSome_getElem?.mp bound)
  by_cases pending : header.id ∈ l.pending
  · rw [saveResult_of_pending known pending]
    refine progress_of_completed (record.fill header result now) ?_ ?_
    · simp [found]
    · simp
  · rw [saveResult_of_completed known pending]
    refine progress_of_completed (record.fill header result now) ?_ ?_
    · simp [modifyTask, found]
    · simp [modifyTask, pending]

theorem progress_saveResult (header : ResultHeader) (engine : Option EngineId) (result : Frame)
    (now : Timestamp) :
    (l.saveResult header engine result now).2.progress id =
      (l.progress id).map fun progress =>
        progress.after (l.hit id (.result header engine result now)) := by
  by_cases same : header.id = id
  · subst id
    rw [hit, if_pos rfl]
    by_cases known : header.id ∈ l.tasks
    · obtain ⟨record, found⟩ := Option.isSome_iff_exists.mp
        (Std.ExtTreeMap.mem_iff_isSome_getElem?.mp known)
      rw [progress_saveResult_self known, progress_of_found found]
      rfl
    · rw [saveResult_of_unknown known, progress_eq_none_iff.mpr known]
      exact progress_eq_none_iff.mpr known
  · rw [hit, if_neg same, progress_fill_of_ne same]
    exact Option.map_id'.symm

theorem progress_strandedSweep (consistent : l.Consistent) (engine : EngineId) (queue : String)
    (now : Timestamp) :
    (l.strandedSweep engine queue now).2.progress id =
      (l.progress id).map fun progress => progress.after (l.hit id (.sweep engine queue now)) := by
  have sweeps := sweeps_strandedSweep consistent engine queue now
  by_cases outstanding : l.IsOutstanding engine id
  · have member : id ∈ (l.strandedSweep engine queue now).1 :=
      (mem_outstanding consistent).mpr outstanding
    obtain ⟨record, found⟩ := consistent.exists_record outstanding.1
    rcases sweeps.outstanding id record found outstanding with ⟨stranded, _, completed⟩
    rw [hit, if_pos member, progress_of_found found, progress_of_completed _ stranded completed]
    rfl
  · have absent : id ∉ (l.strandedSweep engine queue now).1 := fun member =>
      outstanding ((mem_outstanding consistent).mp member)
    rcases sweeps.others id outstanding with ⟨found, _, pending⟩
    rw [hit, if_neg absent, progress_of_same found pending]
    exact Option.map_id'.symm

theorem progress_evict : (l.evict other).2.progress id =
    if other = id then none else l.progress id := by
  unfold evict
  split
  · next unknown =>
      by_cases same : other = id
      · subst other
        simp [progress, unknown]
      · rw [if_neg same]
  · by_cases same : other = id
    · simp [progress, same]
    · rw [if_neg same]
      apply progress_of_same
      · simp [Std.ExtTreeMap.getElem?_erase, same]
      · simp [same]

theorem progress_evictAll {ids : List String} :
    (l.evictAll ids).2.progress id = if id ∈ ids then none else l.progress id := by
  rw [evictAll_eq_foldl]
  induction ids generalizing l with
  | nil => simp
  | cons other rest inductionHypothesis =>
      rw [List.foldl_cons, inductionHypothesis, progress_evict]
      by_cases same : other = id
      · simp [same]
      · simp [same, Ne.symm same]

/-- A purge that is refused forgets nothing. -/
theorem perform_purge (ids : List String) :
    l.perform (.purge ids) = (l.evictAll (l.doomed (.purge ids))).2 := by
  simp only [perform, purge, doomed]
  cases ids.find? fun id => l.pending.contains id <;> rfl

/-! ## Steps -/

/-- What an operation makes of a task. -/
theorem progress_perform (consistent : l.Consistent) (id : String) (operation : Operation) :
    (l.perform operation).progress id =
      if id ∈ l.doomed operation then none
      else if l.admits id operation then some .new
      else (l.progress id).map fun progress => progress.after (l.hit id operation) := by
  have unhit : (l.progress id).map (fun progress => progress.after none) = l.progress id :=
    Option.map_id'
  cases operation with
  | request header lane engine content now =>
      simp only [perform, doomed, hit, List.not_mem_nil, if_false, unhit]
      exact progress_saveRequest header lane engine content now
  | result header engine result now =>
      simp only [perform, doomed, admits, List.not_mem_nil, Bool.false_eq_true, if_false]
      exact progress_saveResult header engine result now
  | destination task engine queue =>
      simp only [perform, doomed, admits, hit, List.not_mem_nil, Bool.false_eq_true, if_false,
        unhit, saveDestination]
      split
      · exact progress_assign engine (some queue)
      · rfl
  | sweep engine queue now =>
      simp only [perform, doomed, admits, List.not_mem_nil, Bool.false_eq_true, if_false]
      exact progress_strandedSweep consistent engine queue now
  | output task stream text =>
      simp only [perform, doomed, admits, hit, List.not_mem_nil, Bool.false_eq_true, if_false,
        unhit]
      exact progress_modifyTask (fun _ => rfl) fun _ => rfl
  | resubmission task now =>
      simp only [perform, doomed, admits, hit, List.not_mem_nil, Bool.false_eq_true, if_false,
        unhit]
      exact progress_modifyTask (fun _ => rfl) fun _ => rfl
  | purge ids =>
      simp only [admits, hit, Bool.false_eq_true, if_false, unhit, perform_purge]
      exact progress_evictAll
  | purgeEngines engines =>
      simp only [admits, hit, Bool.false_eq_true, if_false, unhit]
      exact progress_evictAll
  | purgeAll =>
      simp only [doomed, admits, hit, Bool.false_eq_true, if_false, unhit,
        Std.ExtTreeMap.mem_keys]
      split
      · rfl
      · next unknown => exact (progress_eq_none_iff.mpr unknown).symm

/-- A task that is pending is forgotten only with all others. -/
theorem eq_purgeAll_of_doomed (consistent : l.Consistent) (pending : id ∈ l.pending)
    (doomed : id ∈ l.doomed operation) : operation = .purgeAll := by
  cases operation with
  | purge ids =>
      exfalso
      simp only [Ledger.doomed] at doomed
      split at doomed
      · contradiction
      · next accepted =>
          exact List.find?_eq_none.mp accepted id doomed
            (Std.ExtTreeSet.contains_iff_mem.mpr pending)
  | purgeEngines engines =>
      exfalso
      rcases List.mem_flatMap.mp doomed with ⟨engine, _, member⟩
      rw [Std.ExtTreeSet.mem_toList, Std.ExtTreeSet.mem_inter_iff] at member
      exact consistent.apart pending member.2
  | purgeAll => rfl
  | _ => contradiction

end ClusterHub.Ledger
