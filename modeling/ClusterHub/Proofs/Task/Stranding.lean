import ClusterHub.Proofs.Task.Consistency

/-!
# Stranded tasks

A sweep completes the pending tasks that are bound to an engine and leaves all
others alone.  Once no pending task is bound to an engine, that remains so
unless an operation binds one to it.  A result for a task that was completed
before replaces what the record says and moves no task from one set to another.
-/

namespace ClusterHub

/-- A record that a sweep has completed. -/
def TaskRecord.strand (id queue : String) (now : Timestamp) (record : TaskRecord) : TaskRecord :=
  { record with
    result := Ledger.strandedResult id
    completed := some now
    engineQueue := some queue
    stranded := true }

namespace Ledger

variable {l : Ledger} {id : String} {engine : EngineId}

/-- The engine that a task is bound to. -/
def engineOf (l : Ledger) (id : String) : Option EngineId :=
  l.tasks[id]?.bind TaskRecord.engine

variable {ids : List String} {queue : String} {now : Timestamp}

theorem getElem?_strandAll (other : String) :
    (ids.foldl (strand queue now) l).tasks[other]? =
      if other ∈ ids then l.tasks[other]?.map (TaskRecord.strand other queue now)
      else l.tasks[other]? := by
  induction ids generalizing l with
  | nil => simp
  | cons id rest inductionHypothesis =>
      rw [List.foldl_cons, inductionHypothesis]
      have first : (l.strand queue now id).tasks[other]? =
          if id = other then l.tasks[other]?.map (TaskRecord.strand other queue now)
          else l.tasks[other]? := by
        rw [strand, Std.ExtTreeMap.getElem?_modify]
        by_cases same : id = other
        · subst same
          simp only [Std.compare_self, ↓reduceIte]
          rfl
        · simp [same]
      rw [first]
      by_cases same : id = other
      · subst same
        cases found : l.tasks[id]? with
        | none => simp
        | some record => simp [TaskRecord.strand]
      · simp [same, Ne.symm same]

theorem mem_pending_strandAll (other : String) :
    other ∈ (ids.foldl (strand queue now) l).pending ↔ other ∈ l.pending ∧ other ∉ ids := by
  induction ids generalizing l with
  | nil => simp
  | cons id rest inductionHypothesis =>
      have first : other ∈ (l.strand queue now id).pending ↔ id ≠ other ∧ other ∈ l.pending := by
        simp [strand]
      rw [List.foldl_cons, inductionHypothesis, first, List.mem_cons]
      constructor
      · rintro ⟨⟨different, pending⟩, absent⟩
        refine ⟨pending, ?_⟩
        rintro (same | member)
        · exact different same.symm
        · exact absent member
      · rintro ⟨pending, absent⟩
        exact ⟨⟨fun same => absent (Or.inl same.symm), pending⟩,
          fun member => absent (Or.inr member)⟩

theorem mem_completed_strandAll (other : String) :
    other ∈ (ids.foldl (strand queue now) l).completed ↔ other ∈ l.completed ∨ other ∈ ids := by
  induction ids generalizing l with
  | nil => simp
  | cons id rest inductionHypothesis =>
      have first : other ∈ (l.strand queue now id).completed ↔
          id = other ∨ other ∈ l.completed := by
        simp [strand]
      rw [List.foldl_cons, inductionHypothesis, first, List.mem_cons]
      constructor
      · rintro ((same | completed) | member)
        · exact Or.inr (Or.inl same.symm)
        · exact Or.inl completed
        · exact Or.inr (Or.inr member)
      · rintro (completed | same | member)
        · exact Or.inl (Or.inr completed)
        · exact Or.inl (Or.inl same.symm)
        · exact Or.inr member

/-- The tasks that a sweep is about. -/
def IsOutstanding (l : Ledger) (engine : EngineId) (id : String) : Prop :=
  id ∈ l.pending ∧ l.engineOf id = some engine

theorem mem_outstanding (consistent : l.Consistent) :
    id ∈ (l.engineGroup engine ∩ l.pending).toList ↔ l.IsOutstanding engine id := by
  rw [Std.ExtTreeSet.mem_toList, Std.ExtTreeSet.mem_inter_iff, consistent.byEngine engine id]
  exact And.comm

/-- What a sweep makes of the ledger. -/
structure Sweeps (before after : Ledger) (engine : EngineId) (queue : String) (now : Timestamp) :
    Prop where
  /-- The outstanding tasks of the engine are completed, with a result that is made up. -/
  outstanding : ∀ id record, before.tasks[id]? = some record → before.IsOutstanding engine id →
    after.tasks[id]? = some { record with
      result := strandedResult id
      completed := some now
      engineQueue := some queue
      stranded := true } ∧
    id ∈ after.completed ∧ id ∉ after.pending
  /-- All others are left alone. -/
  others : ∀ id, ¬ before.IsOutstanding engine id →
    after.tasks[id]? = before.tasks[id]? ∧
      (id ∈ after.completed ↔ id ∈ before.completed) ∧ (id ∈ after.pending ↔ id ∈ before.pending)
  unassigned : after.unassigned = before.unassigned
  byClient : after.byClient = before.byClient
  byEngine : after.byEngine = before.byEngine

theorem sweeps_strandedSweep (consistent : l.Consistent) (engine : EngineId) (queue : String)
    (now : Timestamp) : Sweeps l (l.strandedSweep engine queue now).2 engine queue now := by
  have swept : ∀ id, id ∈ (l.engineGroup engine ∩ l.pending).toList ↔ l.IsOutstanding engine id :=
    fun _ => mem_outstanding consistent
  constructor
  case outstanding =>
    intro id record found outstanding
    have member := (swept id).mpr outstanding
    refine ⟨?_, ?_, ?_⟩
    · refine (getElem?_strandAll id).trans ?_
      rw [if_pos member, found]
      rfl
    · exact (mem_completed_strandAll id).mpr (Or.inr member)
    · intro pending
      exact ((mem_pending_strandAll id).mp pending).2 member
  case others =>
    intro id other
    have absent := fun member => other ((swept id).mp member)
    refine ⟨?_, ?_, ?_⟩
    · exact (getElem?_strandAll id).trans (if_neg absent)
    · exact (mem_completed_strandAll id).trans (or_iff_left absent)
    · exact (mem_pending_strandAll id).trans (and_iff_left absent)
  all_goals
    unfold strandedSweep
    generalize (l.engineGroup engine ∩ l.pending).toList = ids
    clear consistent swept
    induction ids generalizing l with
    | nil => rfl
    | cons id rest inductionHypothesis => exact inductionHypothesis

/-! ## Engines without outstanding tasks -/

/-- No pending task is bound to the engine. -/
def Cleared (l : Ledger) (engine : EngineId) : Prop :=
  ∀ id, ¬ l.IsOutstanding engine id

theorem Sweeps.cleared {before after : Ledger} (sweeps : Sweeps before after engine queue now)
    (consistent : before.Consistent) : after.Cleared engine := by
  rintro id ⟨pending, bound⟩
  by_cases outstanding : before.IsOutstanding engine id
  · obtain ⟨record, found⟩ := consistent.exists_record outstanding.1
    exact (sweeps.outstanding id record found outstanding).2.2 pending
  · rcases sweeps.others id outstanding with ⟨same, _, stillPending⟩
    refine outstanding ⟨stillPending.mp pending, ?_⟩
    rw [engineOf, ← same]
    exact bound

/-- A ledger in which tasks were taken out of the pending ones at most, and no
pending one was bound to the engine, is as clear of them as before. -/
theorem Cleared.mono {after : Ledger} (cleared : l.Cleared engine)
    (fewer : ∀ id ∈ after.pending, after.engineOf id = some engine →
      id ∈ l.pending ∧ l.engineOf id = some engine) : after.Cleared engine := by
  rintro id ⟨pending, bound⟩
  exact cleared id (fewer id pending bound)

variable {source : Option EngineId} {content : Frame}

theorem Cleared.saveRequest (cleared : l.Cleared engine) (header : RequestHeader) (lane : Lane)
    (unbinding : source ≠ some engine) :
    (l.saveRequest header lane source content now).2.Cleared engine := by
  unfold Ledger.saveRequest
  split
  · exact cleared
  · rintro id ⟨pending, bound⟩
    simp only [engineOf, Std.ExtTreeMap.getElem?_insert] at bound
    by_cases same : header.id = id
    · simp only [same, Std.compare_self, ↓reduceIte, Option.bind_some] at bound
      exact unbinding bound
    · refine cleared id ⟨?_, ?_⟩
      · simpa [same] using pending
      · simpa [engineOf, same] using bound

theorem Cleared.modifyTask (cleared : l.Cleared engine) {change : TaskRecord → TaskRecord}
    (keepsEngine : ∀ record, (change record).engine = record.engine) :
    (l.modifyTask id change).Cleared engine := by
  apply cleared.mono
  intro other pending bound
  refine ⟨pending, ?_⟩
  rw [← bound, engineOf, engineOf, Ledger.modifyTask, Std.ExtTreeMap.getElem?_modify]
  by_cases same : id = other
  · subst same
    cases l.tasks[id]? <;> simp [keepsEngine]
  · simp [same]

theorem Cleared.assign (cleared : l.Cleared engine) {other : EngineId} {queue : Option String}
    (unbinding : other ≠ engine) : (l.assign id other queue).Cleared engine := by
  apply cleared.mono
  intro task pending bound
  rw [assign_pending] at pending
  refine ⟨pending, ?_⟩
  rw [engineOf, getElem?_assign] at bound
  by_cases same : id = task
  · rw [if_pos same] at bound
    cases found : l.tasks[id]? with
    | none => simp [found] at bound
    | some record => simp [found, unbinding] at bound
  · rw [if_neg same] at bound
    exact bound

theorem Cleared.rebind (cleared : l.Cleared engine) {queue : Option String}
    (unbinding : source ≠ some engine) : (l.rebind id source queue).Cleared engine := by
  have taken : Cleared { l with unassigned := l.unassigned.erase id } engine := cleared
  cases source with
  | none => exact taken
  | some other => exact taken.assign fun same => unbinding (congrArg some same)

theorem Cleared.saveResult (cleared : l.Cleared engine) (header : ResultHeader)
    (unbinding : source ≠ some engine) :
    (l.saveResult header source content now).2.Cleared engine := by
  have bound : (l.rebind header.id source header.engine).Cleared engine := cleared.rebind unbinding
  have filled : ((l.rebind header.id source header.engine).modifyTask header.id
      (TaskRecord.fill header content now)).Cleared engine := bound.modifyTask fun _ => rfl
  by_cases known : header.id ∈ l.tasks
  · by_cases pending : header.id ∈ l.pending
    · rw [saveResult_of_pending known pending]
      apply filled.mono
      intro id stillPending bound
      refine ⟨?_, bound⟩
      have before : id ∈ l.pending := (Std.ExtTreeSet.mem_erase.mp stillPending).2
      simpa [Ledger.modifyTask] using before
    · rw [saveResult_of_completed known pending]
      exact filled
  · rw [saveResult_of_unknown known]
    exact cleared

theorem Cleared.strandedSweep (cleared : l.Cleared engine) (other : EngineId) (queue : String)
    (now : Timestamp) : (l.strandedSweep other queue now).2.Cleared engine := by
  apply cleared.mono
  intro id pending bound
  have before := ((mem_pending_strandAll id).mp pending).1
  refine ⟨before, ?_⟩
  have found : (l.strandedSweep other queue now).2.tasks[id]? = _ := getElem?_strandAll id
  rw [← bound, engineOf, engineOf, found]
  split
  · cases l.tasks[id]? <;> rfl
  · rfl

theorem Cleared.evict (cleared : l.Cleared engine) (id : String) :
    (l.evict id).2.Cleared engine := by
  unfold Ledger.evict
  split
  · exact cleared
  · apply cleared.mono
    intro other pending bound
    rcases Std.ExtTreeSet.mem_erase.mp pending with ⟨different, before⟩
    refine ⟨before, ?_⟩
    rw [engineOf, Std.ExtTreeMap.getElem?_erase, if_neg different] at bound
    exact bound

theorem Cleared.evictAll (cleared : l.Cleared engine) (ids : List String) :
    (l.evictAll ids).2.Cleared engine := by
  rw [evictAll_eq_foldl]
  induction ids generalizing l with
  | nil => exact cleared
  | cons id ids inductionHypothesis => exact inductionHypothesis (cleared.evict id)

/-- An operation that binds no task to the engine leaves it cleared. -/
theorem Cleared.perform (cleared : l.Cleared engine) (operation : Operation)
    (unbinding : operation.binding ≠ some engine) : (l.perform operation).Cleared engine := by
  cases operation with
  | request header lane source content now => exact cleared.saveRequest header lane unbinding
  | result header source result now => exact cleared.saveResult header unbinding
  | destination id other queue =>
      have different : other ≠ engine := fun same => unbinding (congrArg some same)
      simp only [Ledger.perform, Ledger.saveDestination]
      split
      · have taken : Cleared { l with unassigned := l.unassigned.erase id } engine := cleared
        exact taken.assign different
      · exact cleared
  | sweep other queue now => exact cleared.strandedSweep other queue now
  | output id stream text => exact cleared.modifyTask fun _ => rfl
  | resubmission id now => exact cleared.modifyTask fun _ => rfl
  | purge ids =>
      simp only [Ledger.perform, Ledger.purge]
      cases ids.find? fun id => l.pending.contains id with
      | some id => exact cleared
      | none => exact cleared.evictAll ids
  | purgeEngines engines => exact cleared.evictAll _
  | purgeAll =>
      rintro id ⟨pending, _⟩
      simp [Ledger.perform, Ledger.purgeAll] at pending

/-- What a result for a task that was completed before makes of the ledger. -/
structure Overwrites (before after : Ledger) (header : ResultHeader) (content : Frame)
    (now : Timestamp) : Prop where
  record : ∃ record, after.tasks[header.id]? = some record ∧ record.result = content ∧
    record.stranded = false ∧ record.completed = some (header.completed.getD now)
  others : ∀ id, id ≠ header.id → after.tasks[id]? = before.tasks[id]?
  pending : after.pending = before.pending
  completed : after.completed = before.completed
  unassigned : after.unassigned = before.unassigned
  byClient : after.byClient = before.byClient
  size : after.tasks.size = before.tasks.size
  /-- No engine has more or fewer tasks to do. -/
  outstanding : ∀ engine,
    after.engineGroup engine ∩ after.pending = before.engineGroup engine ∩ before.pending

theorem overwrites_saveResult (consistent : l.Consistent) {header : ResultHeader}
    (completed : header.id ∈ l.completed) (source : Option EngineId) (content : Frame)
    (now : Timestamp) :
    Overwrites l (l.saveResult header source content now).2 header content now := by
  have known := (consistent.known header.id).mpr (Or.inr completed)
  have notPending : header.id ∉ l.pending := fun pending => consistent.apart pending completed
  have after := consistent.saveResult header source content now
  rw [saveResult_of_completed known notPending] at after ⊢
  have unassigned := consistent.erase_unassigned notPending
  have others : ∀ id, id ≠ header.id →
      ((l.rebind header.id source header.engine).modifyTask header.id
        (TaskRecord.fill header content now)).tasks[id]? = l.tasks[id]? := by
    intro id different
    rw [modifyTask, Std.ExtTreeMap.getElem?_modify, if_neg, getElem?_rebind_of_ne different.symm]
    simpa using different.symm
  constructor
  case record =>
    obtain ⟨record, found⟩ := Option.isSome_iff_exists.mp
      (Std.ExtTreeMap.mem_iff_isSome_getElem?.mp (mem_tasks_rebind.mpr known))
    refine ⟨record.fill header content now, ?_, rfl, rfl, rfl⟩
    rw [modifyTask, Std.ExtTreeMap.getElem?_modify, if_pos Std.compare_self, found]
    rfl
  case others => exact others
  case pending => exact rebind_pending
  case completed => exact rebind_completed
  case unassigned => exact rebind_unassigned.trans unassigned
  case byClient => exact rebind_byClient
  case size => exact (Std.ExtTreeMap.size_modify ..).trans size_rebind
  case outstanding =>
    intro engine
    apply Std.ExtTreeSet.ext_mem
    intro id
    rw [Std.ExtTreeSet.mem_inter_iff, Std.ExtTreeSet.mem_inter_iff, after.byEngine engine id,
      consistent.byEngine engine id]
    by_cases same : id = header.id
    · subst same
      have before : header.id ∈ (l.rebind header.id source header.engine).pending ↔
          header.id ∈ l.pending := by rw [rebind_pending]
      exact iff_of_false (fun both => notPending (before.mp both.2)) fun both => notPending both.2
    · rw [others id same]
      exact and_congr_right' (by rw [modifyTask, rebind_pending])

end Ledger

end ClusterHub
