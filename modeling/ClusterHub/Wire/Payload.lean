import ClusterHub.Time.Timestamp
import Std.Data.ExtTreeMap

/-!
# Payloads

The values that frames carry: what engines and clients ask for, what the hub
answers, and what the task queues report about tasks.
-/

namespace ClusterHub

/-- The number of an engine, given out by the hub in ascending order. -/
abbrev EngineId := UInt32

/-- How a task travels: straight to a chosen engine, or through the scheduler,
which binds it to an engine later. -/
inductive Lane
  | immediate
  | scheduled
deriving DecidableEq, Repr, Inhabited

/-- What clients are told of a task's progress. -/
inductive TaskStatus
  | pending
  | completed
deriving DecidableEq, Repr, Inhabited

/-- An engine's request to join. -/
structure Registration where
  /-- The identity under which its heart will answer pings. -/
  heart : String
  /-- The routing identity of its task queue. -/
  queue : String
  /-- The name it shows. -/
  name : String
  services : List String := []
deriving DecidableEq, Repr, Inhabited

/-- The number of the engine that joined or left. -/
structure EngineAck where
  id : EngineId
deriving DecidableEq, Repr, Inhabited

/-- An engine's request to leave. -/
structure Unregistration where
  queue : String
deriving DecidableEq, Repr, Inhabited

/-- What is broadcast of an engine that joins or leaves. -/
structure EngineNotice where
  id : EngineId
  queue : String
  heart : String
  name : String
  services : List String
deriving DecidableEq, Repr, Inhabited

/-! ## Queries and answers -/

/-- A question for the load of some engines, or of all. -/
structure LoadQuery where
  targets : Option (List EngineId) := none
deriving DecidableEq, Repr, Inhabited

/-- The outstanding tasks of an engine, by lane. -/
structure EngineLoad where
  immediate : UInt64
  scheduled : UInt64
deriving DecidableEq, Repr, Inhabited

/-- The load of each engine that was asked for. -/
abbrev LoadReport := Std.ExtTreeMap EngineId EngineLoad

/-- A question for the queues of some engines, or of all. -/
structure QueueQuery where
  targets : Option (List EngineId) := none
  verbose : Bool := false
deriving DecidableEq, Repr, Inhabited

/-- The tasks of an engine: counts, and the identities where they were asked
for. -/
structure EngineQueue where
  immediate : UInt64
  scheduled : UInt64
  completed : UInt64
  immediateIds : Option (List String) := none
  completedIds : Option (List String) := none
deriving DecidableEq, Repr, Inhabited

/-- The queues of the engines that were asked for, and the tasks without an
engine. -/
structure QueueReport where
  engines : Std.ExtTreeMap EngineId EngineQueue
  unassigned : List String

/-- An order to forget completed tasks. -/
structure PurgeOrder where
  all : Bool := false
  tasks : List String := []
  engines : List EngineId := []
deriving DecidableEq, Repr, Inhabited

/-- How many tasks were forgotten. -/
structure PurgeReport where
  purged : UInt64
deriving DecidableEq, Repr, Inhabited

/-- A question for the results of tasks. -/
structure ResultQuery where
  tasks : List String
  statusOnly : Bool := false
deriving DecidableEq, Repr, Inhabited

/-- What clients are told of a task. -/
structure TaskSummary where
  id : String
  client : String
  lane : Lane
  status : TaskStatus
  engine : Option EngineId
  submitted : Option Timestamp
  started : Option Timestamp
  completed : Option Timestamp
  resubmitted : Option Timestamp
  /-- Whether its result was made up because its engine died. -/
  stranded : Bool := false
deriving DecidableEq, Repr

/-- The state of the tasks that were asked for.  The results of the completed
ones follow as frames of their own, in the same order. -/
structure ResultReport where
  pending : List String
  completed : List String
  results : Std.ExtTreeMap String TaskSummary

/-- The identities of all tasks, oldest first. -/
structure HistoryReport where
  history : List String
deriving DecidableEq, Repr, Inhabited

/-- A filter on tasks; every field that is set must agree. -/
structure TaskFilter where
  client : Option String := none
  engine : Option EngineId := none
  status : Option TaskStatus := none
  lane : Option Lane := none
deriving DecidableEq, Repr, Inhabited

/-- The tasks that passed a filter. -/
structure TaskListing where
  records : List TaskSummary
deriving DecidableEq, Repr

/-- An order to submit completed tasks again. -/
structure ResubmitOrder where
  tasks : List String
deriving DecidableEq, Repr, Inhabited

/-- The tasks that were submitted again. -/
structure ResubmitReport where
  resubmitted : List String
deriving DecidableEq, Repr, Inhabited

/-- How long the hub waits before it stops. -/
structure ShutdownAck where
  delayMillis : UInt64
deriving DecidableEq, Repr, Inhabited

/-- The addresses a client needs. -/
structure ClientAddresses where
  registration : String
  control : String
  mux : String
  task : String
  taskScheme : String
  output : String
  notification : String
deriving DecidableEq, Repr, Inhabited

/-- The addresses an engine needs. -/
structure EngineAddresses where
  registration : String
  control : String
  mux : String
  task : String
  output : String
  /-- Where pings are published. -/
  ping : String
  /-- Where echoes of pings are sent. -/
  pong : String
deriving DecidableEq, Repr, Inhabited

/-- The client's addresses, and the queue identity of each engine. -/
structure Directory where
  client : ClientAddresses
  engines : Std.ExtTreeMap EngineId String

/-- The envelope of every answer. -/
inductive Reply (α : Type)
  | ok (content : α)
  | error (name : String) (reason : String)
deriving DecidableEq, Repr

/-- The header of a task that was submitted. -/
structure RequestHeader where
  id : String
  client : String
  /-- The queue identity of the engine, where one was chosen already. -/
  engine : Option String := none
  submitted : Option Timestamp := none
deriving DecidableEq, Repr

/-- The header of a task's result. -/
structure ResultHeader where
  id : String
  /-- The queue identity of the engine that the result is from. -/
  engine : Option String := none
  started : Option Timestamp := none
  completed : Option Timestamp := none
deriving DecidableEq, Repr

/-- The engine that the scheduler chose for a task. -/
structure Destination where
  id : String
  engine : String
deriving DecidableEq, Repr, Inhabited

/-- Text that a task wrote to a stream. -/
structure OutputHeader where
  id : String
  stream : String
  text : String
deriving DecidableEq, Repr, Inhabited

end ClusterHub
