import ClusterHub.Proofs.Task.Group
import ClusterHub.Proofs.Task.Result

/-!
# Filed tasks

The sets and indexes of a ledger repeat what its records say.  An operation on
a task concerns that task only: what the ledger says of all others is as it was
before.  So it is enough to look at the task itself, which is either filed
under a record or not filed at all.
-/

namespace ClusterHub

namespace Ledger

/-- The records and all but one of the sets agree.  The set of unassigned tasks
is left out because a result first takes its task out of that set and completes
it only afterwards. -/
structure Filed (l : Ledger) : Prop where
  /-- A record stands under the identity of its task. -/
  identified : ∀ {id : String} {record : TaskRecord}, l.tasks[id]? = some record → record.id = id
  /-- The known tasks are the pending and the completed ones. -/
  known : ∀ id, id ∈ l.tasks ↔ id ∈ l.pending ∨ id ∈ l.completed
  /-- No task is pending and completed. -/
  apart : ∀ {id : String}, id ∈ l.pending → id ∉ l.completed
  byClient : ∀ client id, id ∈ l.clientGroup client ↔
    l.tasks[id]?.map TaskRecord.client = some client
  /-- No client has an empty group. -/
  clients : Pruned l.byClient
  byEngine : ∀ engine id, id ∈ l.engineGroup engine ↔
    l.tasks[id]?.bind TaskRecord.engine = some engine
  /-- The completed tasks are those with a time of completion. -/
  completedAt : ∀ {id : String} {record : TaskRecord}, l.tasks[id]? = some record →
    (record.completed.isSome ↔ id ∈ l.completed)
  /-- A stranded task is completed, with the result made up for it. -/
  stranded : ∀ {id : String} {record : TaskRecord}, l.tasks[id]? = some record →
    record.stranded → id ∈ l.completed ∧ record.result = strandedResult id

/-- What a ledger says of a task that it does not know. -/
structure Unfiled (l : Ledger) (id : String) : Prop where
  absent : l.tasks[id]? = none
  pending : id ∉ l.pending
  completed : id ∉ l.completed
  client : ∀ client, id ∉ l.clientGroup client
  engine : ∀ engine, id ∉ l.engineGroup engine

/-- What a ledger says of a task with a given record. -/
structure FiledAs (l : Ledger) (id : String) (record : TaskRecord) : Prop where
  found : l.tasks[id]? = some record
  identified : record.id = id
  pending : id ∈ l.pending ↔ ¬record.completed.isSome
  completed : id ∈ l.completed ↔ record.completed.isSome
  client : ∀ client, id ∈ l.clientGroup client ↔ record.client = client
  engine : ∀ engine, id ∈ l.engineGroup engine ↔ record.engine = some engine
  stranded : record.stranded → record.completed.isSome ∧ record.result = strandedResult id

/-- A ledger says the same of a task before and after. -/
structure Untouched (before after : Ledger) (id : String) : Prop where
  found : after.tasks[id]? = before.tasks[id]?
  pending : id ∈ after.pending ↔ id ∈ before.pending
  completed : id ∈ after.completed ↔ id ∈ before.completed
  client : ∀ client, id ∈ after.clientGroup client ↔ id ∈ before.clientGroup client
  engine : ∀ engine, id ∈ after.engineGroup engine ↔ id ∈ before.engineGroup engine

variable {l after : Ledger} {id : String} {record : TaskRecord}

theorem Filed.filedAs (filed : l.Filed) (found : l.tasks[id]? = some record) :
    l.FiledAs id record := by
  have known : id ∈ l.pending ∨ id ∈ l.completed :=
    (filed.known id).mp (of_getElem?_eq_some found)
  constructor
  case found => exact found
  case identified => exact filed.identified found
  case pending =>
    rw [filed.completedAt found]
    exact ⟨filed.apart, known.resolve_right⟩
  case completed => exact (filed.completedAt found).symm
  case client =>
    intro client
    rw [filed.byClient client id, found]
    exact Option.some_inj
  case engine =>
    intro engine
    rw [filed.byEngine engine id, found]
    rfl
  case stranded =>
    intro stranded
    rcases filed.stranded found stranded with ⟨completed, result⟩
    exact ⟨(filed.completedAt found).mpr completed, result⟩

theorem Filed.unfiled (filed : l.Filed) (absent : l.tasks[id]? = none) : l.Unfiled id := by
  have unknown : id ∉ l.tasks := (getElem?_eq_none_iff _ _).mp absent
  constructor
  case absent => exact absent
  case pending => exact fun pending => unknown ((filed.known id).mpr (Or.inl pending))
  case completed => exact fun completed => unknown ((filed.known id).mpr (Or.inr completed))
  case client =>
    intro client member
    rw [filed.byClient client id, absent] at member
    contradiction
  case engine =>
    intro engine member
    rw [filed.byEngine engine id, absent] at member
    contradiction

/-- A ledger is filed if each task is filed under a record or not filed at all. -/
theorem filed_of_each (clients : Pruned l.byClient)
    (each : ∀ id, l.Unfiled id ∨ ∃ record, l.FiledAs id record) : l.Filed := by
  have own : ∀ {id record}, l.tasks[id]? = some record → l.FiledAs id record := by
    intro id record found
    rcases each id with unfiled | ⟨other, filedAs⟩
    · rw [unfiled.absent] at found
      contradiction
    · rw [filedAs.found] at found
      cases found
      exact filedAs
  constructor
  case identified => exact fun found => (own found).identified
  case clients => exact clients
  case completedAt => exact fun found => (own found).completed.symm
  case stranded =>
    intro id record found stranded
    rcases (own found).stranded stranded with ⟨completed, result⟩
    exact ⟨(own found).completed.mpr completed, result⟩
  case known =>
    intro id
    rw [Std.ExtTreeMap.mem_iff_isSome_getElem?]
    rcases each id with unfiled | ⟨record, filedAs⟩
    · simp [unfiled.absent, unfiled.pending, unfiled.completed]
    · rw [filedAs.found, filedAs.pending, filedAs.completed]
      exact iff_of_true rfl (Decidable.em _).symm
  case apart =>
    intro id pending completed
    rcases each id with unfiled | ⟨record, filedAs⟩
    · exact unfiled.pending pending
    · exact filedAs.pending.mp pending (filedAs.completed.mp completed)
  case byClient =>
    intro client id
    rcases each id with unfiled | ⟨record, filedAs⟩
    · simp [unfiled.absent, unfiled.client]
    · simp [filedAs.found, filedAs.client]
  case byEngine =>
    intro engine id
    rcases each id with unfiled | ⟨record, filedAs⟩
    · simp [unfiled.absent, unfiled.engine]
    · simp [filedAs.found, filedAs.engine]

/-- Every pending task has a record. -/
theorem Filed.exists_record (filed : l.Filed) (pending : id ∈ l.pending) :
    ∃ record, l.tasks[id]? = some record := by
  have known : id ∈ l.tasks := (filed.known id).mpr (Or.inl pending)
  exact ⟨_, Std.ExtTreeMap.getElem?_eq_some_getElem known⟩

theorem Unfiled.not_mem_tasks (unfiled : l.Unfiled id) : id ∉ l.tasks :=
  (getElem?_eq_none_iff _ _).mp unfiled.absent

theorem Untouched.refl (l : Ledger) (id : String) : Untouched l l id where
  found := rfl
  pending := Iff.rfl
  completed := Iff.rfl
  client := fun _ => Iff.rfl
  engine := fun _ => Iff.rfl

theorem Untouched.trans {last : Ledger} (first : Untouched l after id)
    (second : Untouched after last id) : Untouched l last id where
  found := second.found.trans first.found
  pending := second.pending.trans first.pending
  completed := second.completed.trans first.completed
  client := fun client => (second.client client).trans (first.client client)
  engine := fun engine => (second.engine engine).trans (first.engine engine)

theorem Untouched.mem_tasks (untouched : Untouched l after id) :
    id ∈ after.tasks ↔ id ∈ l.tasks := by
  rw [Std.ExtTreeMap.mem_iff_isSome_getElem?, Std.ExtTreeMap.mem_iff_isSome_getElem?,
    untouched.found]

theorem Unfiled.untouched (unfiled : l.Unfiled id) (untouched : Untouched l after id) :
    after.Unfiled id where
  absent := untouched.found.trans unfiled.absent
  pending := fun pending => unfiled.pending (untouched.pending.mp pending)
  completed := fun completed => unfiled.completed (untouched.completed.mp completed)
  client := fun client member => unfiled.client client ((untouched.client client).mp member)
  engine := fun engine member => unfiled.engine engine ((untouched.engine engine).mp member)

theorem FiledAs.untouched (filedAs : l.FiledAs id record) (untouched : Untouched l after id) :
    after.FiledAs id record where
  found := untouched.found.trans filedAs.found
  identified := filedAs.identified
  pending := untouched.pending.trans filedAs.pending
  completed := untouched.completed.trans filedAs.completed
  client := fun client => (untouched.client client).trans (filedAs.client client)
  engine := fun engine => (untouched.engine engine).trans (filedAs.engine engine)
  stranded := filedAs.stranded

/-- An operation that concerns one task keeps the ledger filed if it keeps that
task filed. -/
theorem Filed.of_touched (filed : l.Filed) (id : String) (clients : Pruned after.byClient)
    (touched : after.Unfiled id ∨ ∃ record, after.FiledAs id record)
    (others : ∀ other, id ≠ other → Untouched l after other) : after.Filed := by
  apply filed_of_each clients
  intro other
  by_cases same : id = other
  · subst same
    exact touched
  · cases found : l.tasks[other]? with
    | none => exact Or.inl ((filed.unfiled found).untouched (others other same))
    | some record => exact Or.inr ⟨record, (filed.filedAs found).untouched (others other same)⟩

/-- A change that keeps what the indexes are about, and neither completes the
task nor strands it, keeps the ledger filed. -/
theorem Filed.modifyTask (filed : l.Filed) {change : TaskRecord → TaskRecord}
    (keepsId : ∀ record, (change record).id = record.id)
    (keepsClient : ∀ record, (change record).client = record.client)
    (keepsEngine : ∀ record, (change record).engine = record.engine)
    (keepsCompletion : ∀ record, l.tasks[id]? = some record →
      (change record).completed.isSome = record.completed.isSome)
    (keepsStranded : ∀ record, (change record).stranded →
      record.stranded ∧ (change record).result = record.result) :
    (l.modifyTask id change).Filed := by
  have changed : (l.modifyTask id change).tasks[id]? = l.tasks[id]?.map change := by
    simp [Ledger.modifyTask]
  apply filed.of_touched id
  case clients => exact filed.clients
  case touched =>
    cases found : l.tasks[id]? with
    | none =>
        have unfiled := filed.unfiled found
        rw [found] at changed
        exact Or.inl { unfiled with absent := changed }
    | some record =>
        have filedAs := filed.filedAs found
        have completion := keepsCompletion record found
        rw [found] at changed
        refine Or.inr ⟨change record, ?_⟩
        constructor
        case found => exact changed
        case identified => exact (keepsId record).trans filedAs.identified
        case pending =>
          rw [completion]
          exact filedAs.pending
        case completed =>
          rw [completion]
          exact filedAs.completed
        case client =>
          rw [keepsClient]
          exact filedAs.client
        case engine =>
          rw [keepsEngine]
          exact filedAs.engine
        case stranded =>
          intro stranded
          rcases keepsStranded record stranded with ⟨before, result⟩
          rw [completion, result]
          exact filedAs.stranded before
  case others =>
    intro other different
    constructor
    case found => simp [Ledger.modifyTask, Std.ExtTreeMap.getElem?_modify, different]
    case pending => exact Iff.rfl
    case completed => exact Iff.rfl
    case client => exact fun _ => Iff.rfl
    case engine => exact fun _ => Iff.rfl

/-- A change that completes a known task keeps the ledger filed. -/
theorem Filed.complete (filed : l.Filed) (change : TaskRecord → TaskRecord)
    (known : id ∈ l.tasks)
    (keepsId : ∀ record, (change record).id = record.id)
    (keepsClient : ∀ record, (change record).client = record.client)
    (keepsEngine : ∀ record, (change record).engine = record.engine)
    (completes : ∀ record, (change record).completed.isSome)
    (strands : ∀ record, (change record).stranded → (change record).result = strandedResult id) :
    Filed { l with
      tasks := l.tasks.modify id change
      pending := l.pending.erase id
      completed := l.completed.insert id } := by
  apply filed.of_touched id
  case clients => exact filed.clients
  case touched =>
    have found := Std.ExtTreeMap.getElem?_eq_some_getElem known
    have filedAs := filed.filedAs found
    refine Or.inr ⟨change l.tasks[id], ?_⟩
    constructor
    case found =>
      rw [Std.ExtTreeMap.getElem?_modify, if_pos Std.compare_self, found]
      rfl
    case identified => exact (keepsId _).trans filedAs.identified
    case pending => simp [completes]
    case completed => simp [completes]
    case client =>
      rw [keepsClient]
      exact filedAs.client
    case engine =>
      rw [keepsEngine]
      exact filedAs.engine
    case stranded => exact fun stranded => ⟨completes _, strands _ stranded⟩
  case others =>
    intro other different
    constructor
    case found => simp [Std.ExtTreeMap.getElem?_modify, different]
    case pending => simp [different]
    case completed => simp [different]
    case client => exact fun _ => Iff.rfl
    case engine => exact fun _ => Iff.rfl

/-! ## Operations -/

theorem Filed.saveRequest (filed : l.Filed) (header : RequestHeader) (lane : Lane)
    (engine : Option EngineId) (content : Frame) (now : Timestamp) :
    (l.saveRequest header lane engine content now).2.Filed := by
  unfold Ledger.saveRequest
  split
  · exact filed
  · next unknown =>
      have absent : l.tasks[header.id]? = none := by simpa using unknown
      have unfiled := filed.unfiled absent
      apply filed.of_touched header.id
      case clients => exact filed.clients.joinGroup
      case touched =>
        apply Or.inr
        apply Exists.intro
        constructor
        case found => exact Std.ExtTreeMap.getElem?_insert_self
        case identified => rfl
        case pending => simp
        case completed => simp [unfiled.completed]
        case client =>
          intro client
          have none_before := unfiled.client client
          simp only [clientGroup] at none_before ⊢
          simp [mem_joinGroup, none_before]
        case engine =>
          intro other
          have none_before := unfiled.engine other
          simp only [engineGroup] at none_before ⊢
          cases engine <;> simp [mem_joinGroup, none_before]
        case stranded => exact nofun
      case others =>
        intro other different
        constructor
        case found => simp [Std.ExtTreeMap.getElem?_insert, different]
        case pending => simp [different]
        case completed => exact Iff.rfl
        case client =>
          intro client
          simp [clientGroup, mem_joinGroup, different]
        case engine =>
          intro task
          cases engine <;> simp [engineGroup, mem_joinGroup, different]

theorem Filed.assign (filed : l.Filed) (id : String) (engine : EngineId)
    (queue : Option String) : (l.assign id engine queue).Filed := by
  unfold Ledger.assign
  split
  · exact filed
  · next record found =>
      have filedAs := filed.filedAs found
      apply filed.of_touched id
      case clients => exact filed.clients
      case touched =>
        apply Or.inr
        apply Exists.intro
        constructor
        case found => exact Std.ExtTreeMap.getElem?_insert_self
        case identified => exact filedAs.identified
        case pending => exact filedAs.pending
        case completed => exact filedAs.completed
        case client => exact filedAs.client
        case engine =>
          intro other
          have before := filedAs.engine other
          simp only [engineGroup] at before ⊢
          rw [mem_joinGroup]
          cases bound : record.engine with
          | none => simp [before, bound]
          | some previous =>
              by_cases kept : previous = engine
              · simp [before, bound, kept]
              · simp only [kept, ↓reduceIte, mem_leaveGroup, before, bound, Option.some_inj,
                  and_true, or_iff_left_iff_imp]
                rintro ⟨same, left⟩
                exact absurd same left
        case stranded => exact filedAs.stranded
      case others =>
        intro other different
        constructor
        case found => simp [Std.ExtTreeMap.getElem?_insert, different]
        case pending => exact Iff.rfl
        case completed => exact Iff.rfl
        case client => exact fun _ => Iff.rfl
        case engine =>
          intro task
          simp only [engineGroup]
          rw [mem_joinGroup]
          cases bound : record.engine with
          | none => simp [different]
          | some previous =>
              by_cases kept : previous = engine
              · simp [kept, different]
              · simp [kept, different, mem_leaveGroup]

theorem Filed.rebind (filed : l.Filed) (id : String) (engine : Option EngineId)
    (queue : Option String) : (l.rebind id engine queue).Filed := by
  have taken : Filed { l with unassigned := l.unassigned.erase id } := { filed with }
  cases engine with
  | none => exact taken
  | some engine => exact taken.assign id engine queue

/-- A task that is evicted is in none of the sets and groups. -/
theorem Filed.unfiled_evict (filed : l.Filed) (id : String) : (l.evict id).2.Unfiled id := by
  unfold Ledger.evict
  split
  · next absent => exact filed.unfiled absent
  · next record found =>
      have filedAs := filed.filedAs found
      constructor
      case absent => simp
      case pending => simp
      case completed => simp
      case client =>
        intro client member
        rcases mem_leaveAndPrune.mp member with ⟨before, left⟩
        exact left ⟨(filedAs.client client).mp before, rfl⟩
      case engine =>
        intro engine
        have before := filedAs.engine engine
        simp only [engineGroup] at before ⊢
        cases bound : record.engine with
        | none => simp [before, bound]
        | some own =>
            rw [mem_leaveGroup, before, bound]
            simp

/-- Evicting a task does not concern the others. -/
theorem untouched_evict {other : String} (different : id ≠ other) :
    Untouched l (l.evict id).2 other := by
  unfold Ledger.evict
  split
  · exact .refl l other
  · next record found =>
      constructor
      case found => simp [Std.ExtTreeMap.getElem?_erase, different]
      case pending => simp [different]
      case completed => simp [different]
      case client =>
        intro client
        simp [clientGroup, mem_leaveAndPrune, different]
      case engine =>
        intro engine
        cases bound : record.engine <;> simp [engineGroup, mem_leaveGroup, different]

theorem Filed.evict (filed : l.Filed) (id : String) : (l.evict id).2.Filed := by
  apply filed.of_touched id
  case clients =>
    unfold Ledger.evict
    split
    · exact filed.clients
    · exact filed.clients.leaveAndPrune
  case touched => exact Or.inl (filed.unfiled_evict id)
  case others => exact fun other different => untouched_evict different

end Ledger

end ClusterHub
