import ClusterHub.Fault

/-!
# Kinds of messages

The closed tables of tags: traffic that the task queues report, queries that
clients and engines send, and notices that the hub broadcasts.
-/

namespace ClusterHub

/-- What the task queues report to the hub. -/
inductive TrafficKind
  | queueRequest
  | queueResult
  | taskRequest
  | taskResult
  | taskDestination
  | controlRequest
  | controlReply
  | output
deriving DecidableEq, Repr, Inhabited

namespace TrafficKind

/-- Every kind, in the order of the table. -/
def all : List TrafficKind :=
  [.queueRequest, .queueResult, .taskRequest, .taskResult, .taskDestination,
   .controlRequest, .controlReply, .output]

/-- The tag of a kind. -/
def tag : TrafficKind → String
  | .queueRequest => "in"
  | .queueResult => "out"
  | .taskRequest => "intask"
  | .taskResult => "outtask"
  | .taskDestination => "tracktask"
  | .controlRequest => "incontrol"
  | .controlReply => "outcontrol"
  | .output => "iopub"

/-- The kind with a given tag. -/
def ofTag (tag : String) : Except Fault TrafficKind :=
  match all.find? fun kind => kind.tag = tag with
  | some kind => .ok kind
  | none => .error (.unknownMessageType tag)

theorem ofTag_tag (kind : TrafficKind) : ofTag kind.tag = .ok kind := by
  cases kind <;> rfl

end TrafficKind

/-- What clients and engines ask of the hub. -/
inductive QueryKind
  | queueStatus
  | results
  | history
  | db
  | purge
  | load
  | resubmit
  | shutdown
  | registration
  | unregistration
  | connection
deriving DecidableEq, Repr, Inhabited

namespace QueryKind

/-- Every kind, in the order of the table. -/
def all : List QueryKind :=
  [.queueStatus, .results, .history, .db, .purge, .load, .resubmit, .shutdown,
   .registration, .unregistration, .connection]

/-- The part that the tags of a query and of its reply begin with. -/
def stem : QueryKind → String
  | .queueStatus => "queue"
  | .results => "result"
  | .history => "history"
  | .db => "db"
  | .purge => "purge"
  | .load => "load"
  | .resubmit => "resubmit"
  | .shutdown => "shutdown"
  | .registration => "registration"
  | .unregistration => "unregistration"
  | .connection => "connection"

/-- The tag of a query. -/
def tag (kind : QueryKind) : String := kind.stem ++ "_request"

/-- The tag of the reply to a query. -/
def replyTag (kind : QueryKind) : String := kind.stem ++ "_reply"

/-- The kind with a given tag. -/
def ofTag (tag : String) : Except Fault QueryKind :=
  match all.find? fun kind => kind.tag = tag with
  | some kind => .ok kind
  | none => .error (.unknownMessageType tag)

theorem ofTag_tag (kind : QueryKind) : ofTag kind.tag = .ok kind := by
  cases kind <;> rfl

end QueryKind

/-- What the hub broadcasts. -/
inductive NoticeKind
  | joined
  | left
  | stopping
deriving DecidableEq, Repr, Inhabited

/-- The tag of a notice. -/
def NoticeKind.tag : NoticeKind → String
  | .joined => "registration_notification"
  | .left => "unregistration_notification"
  | .stopping => "shutdown_notification"

end ClusterHub
