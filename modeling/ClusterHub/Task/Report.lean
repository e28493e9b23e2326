import ClusterHub.Task.Ledger

/-!
# Reports on tasks

What the ledger tells of its tasks: how much each engine has to do, the results
of chosen tasks, and the tasks that pass a filter, oldest first.
-/

namespace ClusterHub.Ledger

/-- The record of a task. -/
def get? (l : Ledger) (id : String) : Option TaskRecord := l.tasks[id]?

/-- Whether a task is pending. -/
def isPending (l : Ledger) (id : String) : Bool := l.pending.contains id

/-- Whether a task is completed. -/
def isCompleted (l : Ledger) (id : String) : Bool := l.completed.contains id

/-- Whether a task waits to be bound to an engine. -/
def isUnassigned (l : Ledger) (id : String) : Bool := l.unassigned.contains id

/-- The number of tasks. -/
def size (l : Ledger) : Nat := l.tasks.size

/-- Whether there are no tasks. -/
def isEmpty (l : Ledger) : Bool := l.tasks.isEmpty

/-- What clients are told of a task. -/
def summarize (l : Ledger) (record : TaskRecord) : TaskSummary where
  id := record.id
  client := record.client
  lane := record.lane
  status := if l.isPending record.id then .pending else .completed
  engine := record.engine
  submitted := some record.submitted
  started := record.started
  completed := record.completed
  resubmitted := record.resubmitted
  stranded := record.stranded

/-- The records of an engine's tasks, in ascending order of their identities. -/
def engineTasks (l : Ledger) (engine : EngineId) : List TaskRecord :=
  (l.engineGroup engine).toList.filterMap l.get?

/-- The outstanding tasks of an engine, by lane. -/
structure Load where
  immediate : Nat
  scheduled : Nat
deriving DecidableEq, Repr, Inhabited

/-- The load as clients are told it. -/
def Load.toPayload (load : Load) : EngineLoad where
  immediate := .ofNat load.immediate
  scheduled := .ofNat load.scheduled

/-- Whether a record is that of a pending task on a lane. -/
def isPendingOn (l : Ledger) (lane : Lane) (record : TaskRecord) : Bool :=
  l.isPending record.id && record.lane = lane

/-- The load of an engine. -/
def load (l : Ledger) (engine : EngineId) : Load where
  immediate := ((l.engineTasks engine).filter (l.isPendingOn .immediate)).length
  scheduled := ((l.engineTasks engine).filter (l.isPendingOn .scheduled)).length

/-- The tasks of an engine by lane and state; the identities of those that are
scheduled and outstanding are not told. -/
structure QueueState where
  immediate : List String
  scheduled : Nat
  completed : List String
deriving DecidableEq, Repr, Inhabited

/-- The tasks of an engine as clients are told them; the identities are told
only if they were asked for. -/
def QueueState.toPayload (verbose : Bool) (state : QueueState) : EngineQueue where
  immediate := .ofNat state.immediate.length
  scheduled := .ofNat state.scheduled
  completed := .ofNat state.completed.length
  immediateIds := if verbose then some state.immediate else none
  completedIds := if verbose then some state.completed else none

/-- The tasks of an engine. -/
def queueState (l : Ledger) (engine : EngineId) : QueueState :=
  let tasks := l.engineTasks engine
  { immediate := (tasks.filter (l.isPendingOn .immediate)).map TaskRecord.id
    scheduled := (tasks.filter (l.isPendingOn .scheduled)).length
    completed := (tasks.filter fun record =>
      !l.isPending record.id && l.isCompleted record.id).map TaskRecord.id }

/-- The engines with outstanding tasks and how many they have, in ascending
order. -/
def enginesWithTasks (l : Ledger) : List (EngineId × Nat) :=
  (l.byEngine.toList.map fun (engine, ids) => (engine, (ids ∩ l.pending).size)).filter
    fun entry => 0 < entry.2

/-! ## Results -/

/-- What is known of some tasks, and the results of the completed ones. -/
structure Results where
  pending : List String := []
  completed : List String := []
  summaries : Std.ExtTreeMap String TaskSummary := ∅
  frames : List Frame := []

/-- The collection as clients are told it; its frames go separately. -/
def Results.toPayload (results : Results) : ResultReport where
  pending := results.pending
  completed := results.completed
  results := results.summaries

/-- Add a task to a collection of results. -/
def addResult (l : Ledger) (statusOnly : Bool) (results : Results) (record : TaskRecord) :
    Results :=
  let results := { results with
    summaries := results.summaries.insert record.id (l.summarize record) }
  if l.isPending record.id then
    { results with pending := results.pending ++ [record.id] }
  else
    { results with
      completed := results.completed ++ [record.id]
      frames := if statusOnly then results.frames else results.frames ++ [record.result] }

/-- The records of some tasks; the first that is not known is a fault. -/
def recordsOf (l : Ledger) (ids : List String) : Except Fault (List TaskRecord) :=
  ids.mapM fun id => match l.get? id with
    | some record => .ok record
    | none => .error (.unknownTask id)

/-- The state of some tasks, and the results of the completed ones in the same
order unless only the state is wanted. -/
def results (l : Ledger) (ids : List String) (statusOnly : Bool) : Except Fault Results := do
  let records ← l.recordsOf ids
  return records.foldl (l.addResult statusOnly) {}

/-- The body of the request of a task that may be submitted again. -/
def resubmittableBody (l : Ledger) (id : String) : Except Fault (String × Frame) :=
  match l.get? id with
  | none => .error (.unknownTask id)
  | some record =>
      if l.isCompleted id then .ok (id, record.content) else .error (.taskNotDone id)

/-- The bodies of the requests of tasks that are to be submitted again; all
must be completed. -/
def resubmittable (l : Ledger) (ids : List String) : Except Fault (List (String × Frame)) :=
  ids.mapM l.resubmittableBody

/-- Whether one task comes before another, or is as old and comes no later by
its identity. -/
def olderOrSame (a b : TaskSummary) : Bool :=
  ((compare a.submitted b.submitted).then (compare a.id b.id)).isLE

/-- The summaries of all tasks. -/
def summaries (l : Ledger) : List TaskSummary :=
  l.tasks.toList.map fun entry => l.summarize entry.2

/-- The summaries of a client's tasks. -/
def clientSummaries (l : Ledger) (client : String) : List TaskSummary :=
  ((l.clientGroup client).toList.filterMap l.get?).map l.summarize

/-- Whether a summary passes every part of a filter but the client. -/
def passes (filter : TaskFilter) (summary : TaskSummary) : Bool :=
  filter.engine.all (fun engine => summary.engine = some engine) &&
    filter.lane.all (fun lane => summary.lane = lane) &&
    filter.status.all (fun status => summary.status = status)

/-- The summaries of the tasks that pass a filter, oldest first. -/
def query (l : Ledger) (filter : TaskFilter) : List TaskSummary :=
  let candidates := match filter.client with
    | some client => l.clientSummaries client
    | none => l.summaries
  (candidates.filter (passes filter)).mergeSort olderOrSame

/-- The identities of all tasks, oldest first. -/
def history (l : Ledger) : List String :=
  (l.summaries.mergeSort olderOrSame).map TaskSummary.id

end ClusterHub.Ledger
