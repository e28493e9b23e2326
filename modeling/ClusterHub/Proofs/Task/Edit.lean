import ClusterHub.Proofs.Collections
import ClusterHub.Proofs.Task.Operation
import ClusterHub.Proofs.Task.Result

/-!
# Edits of single tasks

What is reported of a task changes its record, its places in the groups of the
two indexes and its membership in the three sets.  Such a change is an edit.
Which edit it is depends only on what the ledger says of the task itself, and
edits of different tasks do not get in each other's way; so what is reported of
different tasks can be taken in in either order.
-/

namespace ClusterHub.Ledger

section Groups

variable {κ : Type} [Ord κ] [Std.TransOrd κ] [Std.LawfulEqOrd κ] [DecidableEq κ]
  {index : Std.ExtTreeMap κ TaskSet} {id other : String}

theorem getElem?_joinGroup (index : Std.ExtTreeMap κ TaskSet) (key place : κ) (id : String) :
    (joinGroup index key id)[place]? =
      if key = place then some ((index.getD place ∅).insert id) else index[place]? := by
  rw [joinGroup, Std.ExtTreeMap.getElem?_alter, Std.ExtTreeMap.getD_eq_getD_getElem?]
  by_cases same : key = place
  · subst place
    simp
  · simp [same]

theorem getElem?_leaveGroup (index : Std.ExtTreeMap κ TaskSet) (key place : κ) (id : String) :
    (leaveGroup index key id)[place]? =
      if key = place then index[place]?.map fun (group : TaskSet) => group.erase id
      else index[place]? := by
  rw [leaveGroup, Std.ExtTreeMap.getElem?_modify]
  by_cases same : key = place
  · subst place
    simp
  · simp [same]

theorem joinGroup_comm (index : Std.ExtTreeMap κ TaskSet) (key place : κ) (id other : String) :
    joinGroup (joinGroup index key id) place other =
      joinGroup (joinGroup index place other) key id := by
  apply Std.ExtTreeMap.ext_getElem?
  intro found
  simp only [getElem?_joinGroup, Std.ExtTreeMap.getD_eq_getD_getElem?]
  by_cases first : key = found <;> by_cases second : place = found <;>
    simp [first, second, insert_comm _ id other]

theorem leaveGroup_comm (index : Std.ExtTreeMap κ TaskSet) (key place : κ) (id other : String) :
    leaveGroup (leaveGroup index key id) place other =
      leaveGroup (leaveGroup index place other) key id := by
  apply Std.ExtTreeMap.ext_getElem?
  intro found
  simp only [getElem?_leaveGroup]
  by_cases first : key = found <;> by_cases second : place = found <;>
    simp [first, second, erase_comm _ id other, Function.comp_def]

theorem leaveGroup_joinGroup (index : Std.ExtTreeMap κ TaskSet) (key place : κ)
    (apart : id ≠ other) :
    leaveGroup (joinGroup index place other) key id =
      joinGroup (leaveGroup index key id) place other := by
  apply Std.ExtTreeMap.ext_getElem?
  intro found
  simp only [getElem?_leaveGroup, getElem?_joinGroup, Std.ExtTreeMap.getD_eq_getD_getElem?]
  by_cases first : key = found <;> by_cases second : place = found
  · cases index[found]? <;> simp [first, second, erase_insert_of_ne _ apart]
  all_goals simp [first, second]

/-- Add a task to a group of an index, if one is given. -/
def joinGroup? (index : Std.ExtTreeMap κ TaskSet) (id : String) (key : Option κ) :
    Std.ExtTreeMap κ TaskSet :=
  key.elim index fun key => joinGroup index key id

/-- Take a task out of a group of an index, if one is given. -/
def leaveGroup? (index : Std.ExtTreeMap κ TaskSet) (id : String) (key : Option κ) :
    Std.ExtTreeMap κ TaskSet :=
  key.elim index fun key => leaveGroup index key id

omit [Std.LawfulEqOrd κ] [DecidableEq κ] in
theorem joinGroup?_none (index : Std.ExtTreeMap κ TaskSet) (id : String) :
    joinGroup? index id none = index := rfl

omit [Std.LawfulEqOrd κ] [DecidableEq κ] in
theorem leaveGroup?_none (index : Std.ExtTreeMap κ TaskSet) (id : String) :
    leaveGroup? index id none = index := rfl

theorem joinGroup?_comm (index : Std.ExtTreeMap κ TaskSet) (id other : String)
    (key place : Option κ) :
    joinGroup? (joinGroup? index id key) other place =
      joinGroup? (joinGroup? index other place) id key := by
  match key, place with
  | none, _ => rw [joinGroup?_none, joinGroup?_none]
  | _, none => rw [joinGroup?_none, joinGroup?_none]
  | some key, some place => exact joinGroup_comm index key place id other

theorem leaveGroup?_comm (index : Std.ExtTreeMap κ TaskSet) (id other : String)
    (key place : Option κ) :
    leaveGroup? (leaveGroup? index id key) other place =
      leaveGroup? (leaveGroup? index other place) id key := by
  match key, place with
  | none, _ => rw [leaveGroup?_none, leaveGroup?_none]
  | _, none => rw [leaveGroup?_none, leaveGroup?_none]
  | some key, some place => exact leaveGroup_comm index key place id other

theorem leaveGroup?_joinGroup? (apart : id ≠ other) (index : Std.ExtTreeMap κ TaskSet)
    (key place : Option κ) :
    leaveGroup? (joinGroup? index other place) id key =
      joinGroup? (leaveGroup? index id key) other place := by
  match key, place with
  | none, _ => rw [leaveGroup?_none, leaveGroup?_none]
  | _, none => rw [joinGroup?_none, joinGroup?_none]
  | some key, some place => exact leaveGroup_joinGroup index key place apart

end Groups

/-! ## Edits -/

/-- Put a task into a set or take it out of it, if that is wanted. -/
def place (set : TaskSet) (id : String) : Option Bool → TaskSet
  | none => set
  | some true => set.insert id
  | some false => set.erase id

/-- What changes about one task.  What is `none` stays as it is. -/
structure Edit where
  record : Option TaskRecord := none
  /-- The client whose group the task joins. -/
  client : Option String := none
  /-- The engine whose group the task leaves. -/
  leaves : Option EngineId := none
  /-- The engine whose group the task joins afterwards. -/
  joins : Option EngineId := none
  pending : Option Bool := none
  completed : Option Bool := none
  unassigned : Option Bool := none

/-- Change what a ledger says of a task. -/
def edit (l : Ledger) (id : String) (e : Edit) : Ledger where
  tasks := e.record.elim l.tasks fun record => l.tasks.insert id record
  byClient := joinGroup? l.byClient id e.client
  byEngine := joinGroup? (leaveGroup? l.byEngine id e.leaves) id e.joins
  pending := place l.pending id e.pending
  completed := place l.completed id e.completed
  unassigned := place l.unassigned id e.unassigned

variable {l m : Ledger} {id other : String} {e f : Edit}

theorem eq_of_parts (tasks : l.tasks = m.tasks) (byClient : l.byClient = m.byClient)
    (byEngine : l.byEngine = m.byEngine) (pending : l.pending = m.pending)
    (completed : l.completed = m.completed) (unassigned : l.unassigned = m.unassigned) :
    l = m := by
  cases l
  cases m
  exact (mk.injEq ..).mpr ⟨tasks, byClient, byEngine, pending, completed, unassigned⟩

theorem place_comm (apart : id ≠ other) (set : TaskSet) (wish otherWish : Option Bool) :
    place (place set id wish) other otherWish = place (place set other otherWish) id wish := by
  match wish, otherWish with
  | none, _ => simp only [place]
  | _, none => simp only [place]
  | some true, some true => simp only [place, insert_comm set id other]
  | some false, some false => simp only [place, erase_comm set id other]
  | some true, some false => simp only [place, erase_insert_of_ne set apart.symm]
  | some false, some true => simp only [place, erase_insert_of_ne set apart]

theorem mem_place_of_ne (apart : id ≠ other) (set : TaskSet) (wish : Option Bool) :
    other ∈ place set id wish ↔ other ∈ set := by
  match wish with
  | none => rfl
  | some true => simp [place, apart]
  | some false => simp [place, apart]

theorem tasks_edit : (l.edit id e).tasks =
    e.record.elim l.tasks fun record => l.tasks.insert id record := rfl

theorem byClient_edit : (l.edit id e).byClient = joinGroup? l.byClient id e.client := rfl

theorem byEngine_edit : (l.edit id e).byEngine =
    joinGroup? (leaveGroup? l.byEngine id e.leaves) id e.joins := rfl

theorem pending_edit : (l.edit id e).pending = place l.pending id e.pending := rfl

theorem completed_edit : (l.edit id e).completed = place l.completed id e.completed := rfl

theorem unassigned_edit : (l.edit id e).unassigned = place l.unassigned id e.unassigned := rfl

theorem tasks_edit_comm (apart : id ≠ other) :
    ((l.edit id e).edit other f).tasks = ((l.edit other f).edit id e).tasks := by
  simp only [tasks_edit]
  cases e.record with
  | none => rfl
  | some record =>
      cases f.record with
      | none => rfl
      | some otherRecord => exact insert_swap apart l.tasks record otherRecord

/-- Moves of different tasks between groups can be made in either order. -/
theorem byEngine_edit_comm (apart : id ≠ other) :
    ((l.edit id e).edit other f).byEngine = ((l.edit other f).edit id e).byEngine := by
  simp only [byEngine_edit]
  calc
    joinGroup? (leaveGroup? (joinGroup? (leaveGroup? l.byEngine id e.leaves) id e.joins) other
        f.leaves) other f.joins
      = joinGroup? (joinGroup? (leaveGroup? (leaveGroup? l.byEngine id e.leaves) other f.leaves)
          id e.joins) other f.joins := by rw [leaveGroup?_joinGroup? apart.symm]
    _ = joinGroup? (joinGroup? (leaveGroup? (leaveGroup? l.byEngine other f.leaves) id e.leaves)
          other f.joins) id e.joins := by rw [leaveGroup?_comm, joinGroup?_comm]
    _ = joinGroup? (leaveGroup? (joinGroup? (leaveGroup? l.byEngine other f.leaves) other f.joins)
          id e.leaves) id e.joins := by rw [leaveGroup?_joinGroup? apart]

/-- Edits of different tasks can be made in either order. -/
theorem edit_comm (apart : id ≠ other) :
    (l.edit id e).edit other f = (l.edit other f).edit id e := by
  apply eq_of_parts
  case tasks => exact tasks_edit_comm apart
  case byClient => rw [byClient_edit, byClient_edit, byClient_edit, byClient_edit, joinGroup?_comm]
  case byEngine => exact byEngine_edit_comm apart
  case pending => simp only [pending_edit, place_comm apart]
  case completed => simp only [completed_edit, place_comm apart]
  case unassigned => simp only [unassigned_edit, place_comm apart]

/-- An edit of one task leaves the records of all others as they are. -/
theorem getElem?_edit_of_ne (apart : id ≠ other) :
    (l.edit id e).tasks[other]? = l.tasks[other]? := by
  rw [tasks_edit]
  cases e.record with
  | none => rfl
  | some record => simp [Std.ExtTreeMap.getElem?_insert, apart]

/-- An edit of one task leaves it as it is whether another one is pending. -/
theorem contains_pending_edit_of_ne (apart : id ≠ other) :
    (l.edit id e).pending.contains other = l.pending.contains other := by
  rw [Bool.eq_iff_iff, Std.ExtTreeSet.contains_iff_mem, Std.ExtTreeSet.contains_iff_mem,
    pending_edit, mem_place_of_ne apart]

/-- The task that an operation is about, if it is about a single one. -/
def Operation.task? : Operation → Option String
  | .request header .. => some header.id
  | .result header .. => some header.id
  | .destination id .. => some id
  | .output id .. => some id
  | .resubmission id _ => some id
  | .sweep .. | .purge _ | .purgeEngines _ | .purgeAll => none

/-- Bind a task with a given record to an engine, if one is given.  In either case
the task is no longer unassigned. -/
def rebound (record : TaskRecord) (engine : Option EngineId) (queue : Option String) : Edit where
  record := some <| engine.elim record fun engine =>
    { record with engine := some engine, engineQueue := queue.or record.engineQueue }
  leaves := engine.bind fun engine => record.engine.filter fun previous => previous ≠ engine
  joins := engine
  unassigned := some false

/-- What an operation on a single task changes, given the record of the task and
whether it is pending. -/
def Operation.editOf (record : Option TaskRecord) (pending : Bool) : Operation → Edit
  | .request header lane engine content now =>
      if record.isSome then {} else {
        record := some {
          id := header.id
          client := header.client
          lane
          engine
          engineQueue := engine.bind fun _ => header.engine
          submitted := header.submitted.getD now
          content }
        client := some header.client
        joins := engine
        pending := some true
        unassigned := if engine = none ∧ lane = .scheduled then some true else none }
  | .result header engine body now =>
      match record with
      | none => { unassigned := some false }
      | some record =>
          let filed := rebound record engine header.engine
          { filed with
            record := filed.record.map (TaskRecord.fill header body now)
            pending := if pending then some false else none
            completed := if pending then some true else none }
  | .destination _ engine queue =>
      record.elim {} fun record => rebound record (some engine) (some queue)
  | .output _ stream text =>
      { record := record.map fun record =>
          { record with outputs := record.outputs ++ [(stream, text)] } }
  | .resubmission _ now =>
      { record := record.map fun record => { record with resubmitted := some now } }
  | .sweep .. | .purge _ | .purgeEngines _ | .purgeAll => {}

variable {record : TaskRecord}

theorem edit_nothing (l : Ledger) (id : String) : l.edit id {} = l := rfl

theorem saveRequest_eq_edit (header : RequestHeader) (lane : Lane) (engine : Option EngineId)
    (content : Frame) (now : Timestamp) :
    (l.saveRequest header lane engine content now).2 = l.edit header.id
      ((Operation.request header lane engine content now).editOf l.tasks[header.id]?
        (l.pending.contains header.id)) := by
  unfold saveRequest Operation.editOf
  rw [Std.ExtTreeMap.contains_eq_isSome_getElem?]
  split
  · rw [edit_nothing]
  · apply eq_of_parts
    case byEngine => cases engine <;> rfl
    case unassigned =>
      rw [unassigned_edit]
      dsimp only
      split <;> rfl
    all_goals rfl

theorem assign_eq_edit (found : l.tasks[id]? = some record) (engine : EngineId)
    (queue : Option String) :
    { l with unassigned := l.unassigned.erase id }.assign id engine queue =
      l.edit id (rebound record (some engine) queue) := by
  unfold assign
  simp only [found]
  apply eq_of_parts
  case byEngine =>
    rw [byEngine_edit, rebound]
    cases record.engine with
    | none => rfl
    | some previous =>
        by_cases same : previous = engine <;>
          simp [same, leaveGroup?, joinGroup?, Option.filter_some]
  all_goals rfl

theorem rebind_eq_edit (found : l.tasks[id]? = some record) (engine : Option EngineId)
    (queue : Option String) :
    l.rebind id engine queue = l.edit id (rebound record engine queue) := by
  cases engine with
  | none =>
      apply eq_of_parts
      case tasks => exact (insert_of_found found).symm
      all_goals rfl
  | some engine => exact assign_eq_edit found engine queue

theorem modify_tasks_rebound (change : TaskRecord → TaskRecord) (engine : Option EngineId)
    (queue : Option String) :
    (l.edit id (rebound record engine queue)).tasks.modify id change =
      ((rebound record engine queue).record.map change).elim l.tasks
        fun record => l.tasks.insert id record := by
  rw [tasks_edit, rebound, Option.elim_some, modify_of_found Std.ExtTreeMap.getElem?_insert_self,
    insert_insert]
  rfl

theorem saveResult_eq_edit (header : ResultHeader) (engine : Option EngineId) (body : Frame)
    (now : Timestamp) :
    (l.saveResult header engine body now).2 = l.edit header.id
      ((Operation.result header engine body now).editOf l.tasks[header.id]?
        (l.pending.contains header.id)) := by
  cases found : l.tasks[header.id]? with
  | none =>
      have unknown : header.id ∉ l.tasks := (getElem?_eq_none_iff _ _).mp found
      rw [saveResult_of_unknown unknown]
      rfl
  | some record =>
      have known : header.id ∈ l.tasks := of_getElem?_eq_some found
      by_cases pending : header.id ∈ l.pending
      · rw [saveResult_of_pending known pending, rebind_eq_edit found]
        apply eq_of_parts
        case tasks => exact modify_tasks_rebound _ engine header.engine
        case pending => simp [pending_edit, Operation.editOf, pending, place]
        case completed => simp [completed_edit, Operation.editOf, pending, place]
        all_goals rfl
      · rw [saveResult_of_completed known pending, rebind_eq_edit found]
        apply eq_of_parts
        case tasks => exact modify_tasks_rebound _ engine header.engine
        case pending => simp [pending_edit, Operation.editOf, pending, place, modifyTask, rebound]
        case completed => simp [completed_edit, Operation.editOf, pending, place, modifyTask, rebound]
        all_goals rfl

theorem saveDestination_eq_edit (id : String) (engine : EngineId) (queue : String) :
    (l.saveDestination id engine queue).2 = l.edit id
      ((Operation.destination id engine queue).editOf l.tasks[id]? (l.pending.contains id)) := by
  unfold saveDestination Operation.editOf
  rw [Std.ExtTreeMap.contains_eq_isSome_getElem?]
  cases found : l.tasks[id]? with
  | none => exact (edit_nothing l id).symm
  | some record => exact assign_eq_edit found engine (some queue)

theorem modifyTask_eq_edit (id : String) (change : TaskRecord → TaskRecord) :
    l.modifyTask id change = l.edit id { record := l.tasks[id]?.map change } := by
  apply eq_of_parts
  case tasks =>
    rw [tasks_edit, modifyTask]
    cases found : l.tasks[id]? with
    | none => exact modify_of_absent found change
    | some record => exact modify_of_found found change
  all_goals rfl

/-- An operation on a single task makes an edit of it, which depends on what the
ledger says of that task only. -/
theorem perform_eq_edit {operation : Operation} (about : operation.task? = some id) :
    l.perform operation =
      l.edit id (operation.editOf l.tasks[id]? (l.pending.contains id)) := by
  cases operation with
  | request header lane engine content now =>
      cases about
      exact saveRequest_eq_edit header lane engine content now
  | result header engine body now =>
      cases about
      exact saveResult_eq_edit header engine body now
  | destination id engine queue =>
      cases about
      exact saveDestination_eq_edit id engine queue
  | output id stream text =>
      cases about
      exact modifyTask_eq_edit id _
  | resubmission id now =>
      cases about
      exact modifyTask_eq_edit id _
  | sweep | purge | purgeEngines | purgeAll => contradiction

/-- Operations on different tasks can be made in either order. -/
theorem perform_comm {first second : Operation} (about : first.task? = some id)
    (otherAbout : second.task? = some other) (apart : id ≠ other) :
    (l.perform first).perform second = (l.perform second).perform first := by
  rw [perform_eq_edit about, perform_eq_edit otherAbout, perform_eq_edit otherAbout,
    perform_eq_edit about, getElem?_edit_of_ne apart, getElem?_edit_of_ne apart.symm,
    contains_pending_edit_of_ne apart, contains_pending_edit_of_ne apart.symm, edit_comm apart]

end ClusterHub.Ledger
