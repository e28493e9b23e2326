import ClusterHub.Wire.Codec
import Std.Data.ExtTreeSet

/-!
# The task ledger

Every task that the hub has been told of, with indexes by client and by engine.
A task is pending until a result for it arrives or its engine dies, and
completed from then on.  A scheduled task is unassigned until it is bound to an
engine.
-/

namespace ClusterHub

/-- What is known of a task. -/
structure TaskRecord where
  id : String
  client : String
  lane : Lane
  engine : Option EngineId
  /-- The queue identity of the engine, kept when the engine has gone. -/
  engineQueue : Option String
  submitted : Timestamp
  started : Option Timestamp := none
  completed : Option Timestamp := none
  resubmitted : Option Timestamp := none
  /-- The body of the request. -/
  content : Frame
  /-- The body of the result. -/
  result : Frame := .empty
  /-- Whether the result was made up because the engine died. -/
  stranded : Bool := false
  /-- Streams, and the text written to them. -/
  outputs : List (String × String) := []
deriving DecidableEq

/-- How a result was taken in. -/
inductive Disposition
  /-- The task is completed by it. -/
  | completed
  /-- The task was completed before; the result replaces the older one. -/
  | late
  /-- There is no such task. -/
  | unknown
deriving DecidableEq, Repr, Inhabited

/-- A set of task identities. -/
abbrev TaskSet := Std.ExtTreeSet String

/-- The tasks of a hub. -/
structure Ledger where
  tasks : Std.ExtTreeMap String TaskRecord := ∅
  /-- The tasks of each client that has any. -/
  byClient : Std.ExtTreeMap String TaskSet := ∅
  /-- The tasks of each engine. -/
  byEngine : Std.ExtTreeMap EngineId TaskSet := ∅
  pending : TaskSet := ∅
  completed : TaskSet := ∅
  /-- Scheduled tasks without an engine. -/
  unassigned : TaskSet := ∅

namespace Ledger

instance : Inhabited Ledger := ⟨{}⟩

/-- The result that is made up for a task whose engine died. -/
def strandedResult (id : String) : Frame :=
  .ofText s!"Engine died while running task `{id}'"

/-- Add a task to a group of an index. -/
def joinGroup {κ : Type} [Ord κ] [Std.TransOrd κ] (index : Std.ExtTreeMap κ TaskSet)
    (key : κ) (id : String) : Std.ExtTreeMap κ TaskSet :=
  index.alter key fun group => some ((group.getD ∅).insert id)

/-- Take a task out of a group of an index. -/
def leaveGroup {κ : Type} [Ord κ] [Std.TransOrd κ] (index : Std.ExtTreeMap κ TaskSet)
    (key : κ) (id : String) : Std.ExtTreeMap κ TaskSet :=
  index.modify key fun group => group.erase id

/-- Take a task out of a group of an index, and the group with it if it was the
last one. -/
def leaveAndPrune {κ : Type} [Ord κ] [Std.TransOrd κ] (index : Std.ExtTreeMap κ TaskSet)
    (key : κ) (id : String) : Std.ExtTreeMap κ TaskSet :=
  index.alter key fun group =>
    (group.map fun ids => ids.erase id).filter fun ids => !ids.isEmpty

/-- The tasks of an engine. -/
def engineGroup (l : Ledger) (engine : EngineId) : TaskSet :=
  l.byEngine.getD engine ∅

/-- The tasks of a client. -/
def clientGroup (l : Ledger) (client : String) : TaskSet :=
  l.byClient.getD client ∅

/-- Change a record. -/
def modifyTask (l : Ledger) (id : String) (change : TaskRecord → TaskRecord) : Ledger :=
  { l with tasks := l.tasks.modify id change }

/-! ## Taking in reports -/

/-- Record a new task, pending from now on.  A task that is known already is
left as it is.  Gives whether it was new. -/
def saveRequest (l : Ledger) (header : RequestHeader) (lane : Lane)
    (engine : Option EngineId) (content : Frame) (now : Timestamp) : Bool × Ledger :=
  if l.tasks.contains header.id then (false, l)
  else
    let record : TaskRecord := {
      id := header.id
      client := header.client
      lane
      engine
      engineQueue := engine.bind fun _ => header.engine
      submitted := header.submitted.getD now
      content }
    (true, { l with
      tasks := l.tasks.insert header.id record
      byClient := joinGroup l.byClient header.client header.id
      byEngine := match engine with
        | some id => joinGroup l.byEngine id header.id
        | none => l.byEngine
      unassigned :=
        if engine = none ∧ lane = .scheduled then l.unassigned.insert header.id
        else l.unassigned
      pending := l.pending.insert header.id })

/-- Bind a known task to an engine, in the place of the one it was bound to. -/
def assign (l : Ledger) (id : String) (engine : EngineId) (queue : Option String) : Ledger :=
  match l.tasks[id]? with
  | none => l
  | some record =>
      let left := match record.engine with
        | some previous =>
            if previous = engine then l.byEngine else leaveGroup l.byEngine previous id
        | none => l.byEngine
      { l with
        tasks := l.tasks.insert id { record with
          engine := some engine
          engineQueue := queue.or record.engineQueue }
        byEngine := joinGroup left engine id }

/-- Take in the result of a task. -/
def saveResult (l : Ledger) (header : ResultHeader) (engine : Option EngineId)
    (result : Frame) (now : Timestamp) : Disposition × Ledger :=
  let l := { l with unassigned := l.unassigned.erase header.id }
  if l.tasks.contains header.id then
    let l := match engine with
      | some engine => l.assign header.id engine header.engine
      | none => l
    let fill (record : TaskRecord) : TaskRecord :=
      { record with
        started := header.started.or record.started
        completed := some (header.completed.getD now)
        result
        stranded := false }
    if l.pending.contains header.id then
      (.completed, { l with
        tasks := l.tasks.modify header.id fill
        pending := l.pending.erase header.id
        completed := l.completed.insert header.id })
    else (.late, l.modifyTask header.id fill)
  else (.unknown, l)

/-- Bind a task to the engine that the scheduler chose.  Gives whether the task
is known. -/
def saveDestination (l : Ledger) (id : String) (engine : EngineId) (queue : String) :
    Bool × Ledger :=
  if l.tasks.contains id then
    (true, { l with unassigned := l.unassigned.erase id }.assign id engine (some queue))
  else (false, l)

/-- Note text that a task wrote.  Gives whether the task is known. -/
def appendOutput (l : Ledger) (id stream text : String) : Bool × Ledger :=
  (l.tasks.contains id, l.modifyTask id fun record =>
    { record with outputs := record.outputs ++ [(stream, text)] })

/-- Complete a task whose engine died. -/
def strand (queue : String) (now : Timestamp) (l : Ledger) (id : String) : Ledger :=
  { l with
    tasks := l.tasks.modify id fun record =>
      { record with
        result := strandedResult id
        completed := some now
        engineQueue := some queue
        stranded := true }
    pending := l.pending.erase id
    completed := l.completed.insert id }

/-- Complete every task that is still pending on an engine that died.  Gives
their identities in ascending order. -/
def strandedSweep (l : Ledger) (engine : EngineId) (queue : String) (now : Timestamp) :
    List String × Ledger :=
  let ids := (l.engineGroup engine ∩ l.pending).toList
  (ids, ids.foldl (strand queue now) l)

/-- Note when a task was submitted again. -/
def markResubmitted (l : Ledger) (id : String) (now : Timestamp) : Ledger :=
  l.modifyTask id fun record => { record with resubmitted := some now }

/-! ## Forgetting -/

/-- Forget a task, and say whether it was known. -/
def evict (l : Ledger) (id : String) : Bool × Ledger :=
  match l.tasks[id]? with
  | none => (false, l)
  | some record =>
      (true, {
        tasks := l.tasks.erase id
        byClient := leaveAndPrune l.byClient record.client id
        byEngine := match record.engine with
          | some engine => leaveGroup l.byEngine engine id
          | none => l.byEngine
        pending := l.pending.erase id
        completed := l.completed.erase id
        unassigned := l.unassigned.erase id })

/-- Forget tasks, and count those that were known. -/
def evictAll (l : Ledger) (ids : List String) : Nat × Ledger :=
  ids.foldl (fun (count, l) id =>
    let (known, l) := l.evict id
    (if known then count + 1 else count, l)) (0, l)

/-- Forget all tasks, and count them. -/
def purgeAll (l : Ledger) : Nat × Ledger := (l.tasks.size, {})

/-- Forget completed tasks, and count them.  Nothing is done if one of them is
still pending. -/
def purge (l : Ledger) (ids : List String) : Except Fault (Nat × Ledger) :=
  match ids.find? fun id => l.pending.contains id with
  | some id => .error (.taskPending id)
  | none => .ok (l.evictAll ids)

/-- Forget the completed tasks of some engines, and count them. -/
def purgeEngines (l : Ledger) (engines : List EngineId) : Nat × Ledger :=
  l.evictAll (engines.flatMap fun engine => (l.engineGroup engine ∩ l.completed).toList)

end Ledger

end ClusterHub
